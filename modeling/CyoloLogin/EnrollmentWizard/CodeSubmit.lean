import CyoloLogin.EnrollmentWizard.Screen

/-!
# The loading guard of the code field

`handleCodeSubmit` sets `isLoading` before it calls `performEnrollWithSMS` or
`performEnrollWithTOTP`, and its `finally` clause clears it once that request settles.
While `isLoading` holds, the MFA step renders a spinner in place of `MfaSetupView`, and so
no `InputCodeField`; nothing else writes `isLoading`.  `loading s` is the number of
outstanding enrollment requests with `isLoading`; every handler but these two leaves it
alone (`step_loading`).  From this:

* `enrollments_eq_isLoading`: in every reachable state one enrollment request is
  outstanding while `isLoading` holds, and none otherwise.
* `one_enrollment_request`: at most one enrollment request is ever outstanding, however
  the user moves between steps or switches mode while one is pending.
-/

namespace CyoloLogin.EnrollmentWizardScreen

variable {phoneNumberScheme : String → Bool}

/-- The number of outstanding enrollment requests. -/
def enrollments (s : State) : Nat := s.outstanding.countP Request.isEnrollment

/-- The outstanding enrollment requests and `isLoading`. -/
def loading (s : State) : Nat × Bool := (enrollments s, s.isLoading)

/-! ### Every handler but `handleCodeSubmit` and its `finally` leaves `loading` alone -/

theorem loading_issue {r : Request} (hr : r.isEnrollment = false) (s : State) :
  loading (issue r s) = loading s
  := by
  simp [loading, enrollments, issue, List.countP_append, hr]

/-- `handleNext` sends no enrollment. -/
theorem loading_handleNext (s : State) :
  loading (escape s (handleNext s)) = loading s
  := by
  have hnone : (nextRequests s).countP Request.isEnrollment = 0 :=
    List.countP_eq_zero.mpr fun r hr => by
      rcases mem_nextRequests hr with rfl | rfl <;> exact Bool.false_ne_true
  rw [handleNext_eq]
  simp [loading, enrollments, List.countP_append, hnone]

theorem loading_handlePhoneSubmission (phoneNumber : String) (s : State) :
  loading (handlePhoneSubmission phoneNumberScheme phoneNumber s) = loading s
  := by
  unfold handlePhoneSubmission
  split
  · exact loading_issue (by rfl) _
  · rfl

/-- The `finally` clause of `handleCodeSubmit` clears `isLoading`; no other continuation
writes it. -/
theorem loading_settle (r : Request) (o : Outcome) (s : State) :
  loading (settle r o s) = (enrollments s, if r.isEnrollment then false else s.isLoading)
  := (congrArg loading (settle_eq r o s)).trans rfl

/-- `handleCodeSubmit` sets `isLoading` and issues one enrollment request. -/
theorem loading_handleCodeSubmit (code : String) (s : State) :
  loading (handleCodeSubmit code s) = (enrollments s + 1, true)
  := by
  rw [handleCodeSubmit_eq]
  cases s.enrollmentMode <;> simp [loading, enrollments, issue, List.countP_append, enrollRequest,
    Request.isEnrollment]

/-! ### The invariant -/

/-- Every step keeps one enrollment request outstanding while `isLoading` holds, and none
otherwise. -/
theorem step_loading {s s' : State} {e : Event} (h : step phoneNumberScheme s e = some s')
    (hs : enrollments s = if s.isLoading then 1 else 0) :
  enrollments s' = if s'.isLoading then 1 else 0
  := by
  have frame : loading s' = loading s → enrollments s' = if s'.isLoading then 1 else 0 := by
    intro heq
    simp only [loading, Prod.mk.injEq] at heq
    rw [heq.1, heq.2]
    exact hs
  revert frame
  apply step_cases h
  case completeCode =>
    intro code hshow _
    have hidle : s.isLoading = false := by
      simp only [showsCodeField, showsMfaSetupView, Bool.and_eq_true, Bool.not_eq_true'] at hshow
      exact hshow.1.2
    have hloading := loading_handleCodeSubmit code s
    simp only [loading, Prod.mk.injEq] at hloading
    rw [hloading.1, hloading.2, hs, hidle]
    rfl
  case settled =>
    intro r o hmem frame
    have hcount := (List.perm_cons_erase hmem).countP_eq Request.isEnrollment
    simp only [List.countP_cons] at hcount
    have hloading := loading_settle r o { s with outstanding := s.outstanding.erase r }
    cases hr : r.isEnrollment
    · exact frame (hloading.trans (by simp [loading, enrollments, hcount, hr]))
    · simp only [loading, Prod.mk.injEq, hr, if_true] at hloading hcount
      rw [hloading.1, hloading.2]
      simp only [enrollments] at hs ⊢
      split at hs <;> simp only [Bool.false_eq_true, if_false] <;> omega
  case poll => exact fun _ _ _ frame => frame ((congrArg loading (render_eq _)).trans rfl)
  case entryResolved =>
    exact fun v _ frame => frame ((congrArg loading (loadUserData_writes v _)).trans rfl)
  case clickNext => exact fun _ _ frame => frame (loading_handleNext _)
  case pressEnter => exact fun frame => frame (loading_handleNext _)
  case clickSkip =>
    exact fun _ h₀ frame => frame ((congrArg loading (handleSkip_eq (h₀ ▸ rfl) s)).trans rfl)
  case clickPhoneSubmit => exact fun _ _ frame => frame (loading_handlePhoneSubmission _ _)
  all_goals (intros; rename_i frame; exact frame rfl)

/-- In every reachable state one enrollment request is outstanding while `isLoading`
holds, and none otherwise. -/
theorem enrollments_eq_isLoading {s : State} (h : (screen phoneNumberScheme).Reachable s) :
  enrollments s = if s.isLoading then 1 else 0
  := h.induction (I := fun s => enrollments s = if s.isLoading then 1 else 0) rfl
    fun _ _ _ hs he => step_loading he hs

/-- At most one `performEnrollWithSMS` or `performEnrollWithTOTP` request is outstanding
in any reachable state. -/
theorem one_enrollment_request (phoneNumberScheme : String → Bool) (s : State)
    (h : (screen phoneNumberScheme).Reachable s) :
  enrollments s ≤ 1
  := by
  rw [enrollments_eq_isLoading h]
  split <;> omega

/-- Enter skips step `0`, and a code completed on step `1` leaves one enrollment request
outstanding. -/
theorem one_enrollment_request_of_submitted :
  ∃ s, (screen fun _ => true).Reachable s ∧ enrollments s = 1 ∧ enrollments s ≤ 1
  := by
  have hr : (screen fun _ => true).Reachable _ := ⟨[.pressEnter, .completeCode "123456"], rfl⟩
  exact ⟨_, hr, rfl, one_enrollment_request _ _ hr⟩

end CyoloLogin.EnrollmentWizardScreen
