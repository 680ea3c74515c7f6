import CyoloLogin.MultifactorAuth.Screen

/-!
# The loading guard of the code field

`handleCodeCompletion` sets `isLoading` before it calls `performTotpConfirmation`, and
the code field is not rendered while `isLoading` holds.  But the effect without a
dependency list arms a timer after every render, and each timer clears `isLoading`
`2000` ms after it was armed, whether a confirmation is outstanding or not.

* `two_confirmations_outstanding`: a confirmation that takes `2000` ms lets the code
  field come back, and a second code completion issues a second confirmation while the
  first is outstanding.

The same timers keep the spinner from sticking: every reachable state satisfies
`Spinner`, every pending timer is due within `2000` ms and one is pending while the
spinner shows.

* `spinner_hidden_within`: from every reachable state that shows the spinner, `2000` ms
  later the loading timer fires and hides it.
-/

namespace CyoloLogin.MultifactorAuthScreen

/-- The number of outstanding `performTotpConfirmation` requests. -/
def confirmations (s : State) : Nat :=
  s.outstanding.countP fun r => r matches .performTotpConfirmation _

/-- Once a snapshot with a TOTP enrollment is loaded and the first timer has cleared the
spinner, a code completion, `2000` ms and a second code completion leave two
confirmations outstanding. -/
theorem two_confirmations_outstanding :
  ¬ ∀ s, screen.Reachable s → confirmations s ≤ 1
  := by
  intro h
  have := h _ ⟨[.elapse 2000, .poll .tick,
    .poll (.resolved 0 (some ⟨"1", "user", "alice", false, true, "", "", "", "", 1, "", true, false,
      true⟩)), .loadingTimeout, .completeCode "123456", .elapse 2000, .loadingTimeout,
    .completeCode "123456"], rfl⟩
  exact absurd this (by decide)

/-! ### The spinner never sticks -/

/-- Every pending loading timer is due within `2000` ms, and one is pending while the
spinner shows. -/
structure Spinner (s : State) : Prop where
  due : ∀ d ∈ s.loadingTimeouts, d ≤ s.now + 2000
  armed : s.isLoading = true → s.loadingTimeouts ≠ []

/-- `Spinner` reads only the clock, `isLoading` and the loading timers. -/
theorem Spinner.frame {s s' : State} (hi : Spinner s) (hnow : s'.now = s.now)
    (hl : s'.isLoading = s.isLoading) (ht : s'.loadingTimeouts = s.loadingTimeouts) :
  Spinner s'
  := ⟨by rw [hnow, ht]; exact hi.due, by rw [hl, ht]; exact hi.armed⟩

/-- A render arms a timer due in `2000` ms. -/
theorem spinner_rerender {s : State} (hdue : ∀ d ∈ s.loadingTimeouts, d ≤ s.now + 2000) :
  Spinner (rerender s)
  := by
  rw [rerender_eq]
  refine ⟨fun d hd => ?_, fun _ => by simp⟩
  rcases List.mem_append.mp hd with hd | hd
  · exact hdue d hd
  · exact le_of_eq (List.mem_singleton.mp hd)

theorem spinner_setIsLoading (b : Bool) {s : State} (hi : Spinner s) :
  Spinner (setIsLoading b s)
  := by
  unfold setIsLoading
  split
  · exact hi
  · exact spinner_rerender hi.due

/-- Clearing `isLoading` needs no pending timer. -/
theorem spinner_setIsLoading_false {s : State} (hdue : ∀ d ∈ s.loadingTimeouts, d ≤ s.now + 2000) :
  Spinner (setIsLoading false s)
  := by
  unfold setIsLoading
  split
  · exact ⟨hdue, fun hl => by simp_all⟩
  · exact spinner_rerender hdue

theorem spinner_setMfaMode (m : MfaModes) {s : State} (hi : Spinner s) :
  Spinner (setMfaMode m s)
  := by
  unfold setMfaMode
  split
  · exact hi
  · exact spinner_rerender hi.due

theorem spinner_setAlertStatus (a : AlertStatus) {s : State} (hi : Spinner s) :
  Spinner (setAlertStatus a s)
  := spinner_rerender hi.due

theorem spinner_issue (r : Request) {s : State} (hi : Spinner s) :
  Spinner (issue r s)
  := hi.frame rfl rfl rfl

theorem spinner_settle (r : Request) (o : Outcome) {s : State} (hi : Spinner s) :
  Spinner (settle r o s)
  := by
  cases r <;> cases o
  case initiateMfaSmsMessage.resolved => exact spinner_setAlertStatus _ hi
  case initiateMfaSmsMessage.rejected => exact (spinner_setAlertStatus _ hi).frame rfl rfl rfl
  case performTotpConfirmation.resolved | performTotpConfirmation.rejected =>
    exact spinner_setIsLoading false (spinner_setAlertStatus _ hi)
  all_goals exact hi

theorem Spinner.step {s s' : State} {e : Event} (hi : Spinner s) (h : step s e = some s') :
  Spinner s'
  := by
  apply step_cases h
  case elapse =>
    refine fun ms => ⟨fun d hd => ?_, hi.armed⟩
    have := hi.due d hd
    simp only
    omega
  case pollResolved =>
    intro _ _ p _
    unfold setUserData
    split
    · exact hi.frame rfl rfl rfl
    · exact spinner_rerender hi.due
  case entryResolved => exact fun v _ => by rw [loadUserData_eq]; exact hi.frame rfl rfl rfl
  case settled => exact fun r o _ => spinner_settle r o (hi.frame rfl rfl rfl)
  case loadingTimeout =>
    exact fun d rest hd _ => spinner_setIsLoading_false fun d' hd' =>
      hi.due d' (hd ▸ List.mem_cons_of_mem d hd')
  case revertTimeout => exact fun _ _ _ _ => spinner_setMfaMode _ (hi.frame rfl rfl rfl)
  case clickModeLink =>
    intro _
    rw [handleModeChange_eq]
    split
    · exact spinner_issue _ (spinner_setMfaMode _ hi)
    · exact spinner_setMfaMode _ hi
  case completeCode =>
    intro code _
    rw [handleCodeCompletion_eq]
    split
    · exact spinner_setAlertStatus _ hi
    · exact spinner_issue _ (spinner_setIsLoading true hi)
  case closeSnackbar => exact fun _ => spinner_setAlertStatus _ hi
  all_goals (intros; exact hi.frame rfl rfl rfl)

theorem Spinner.reachable {s : State} (h : screen.Reachable s) : Spinner s :=
  h.induction (I := Spinner) ⟨by simp [screen, initial], by simp [screen, initial]⟩
    fun _ _ _ hi hs => hi.step hs

/-- From every reachable state that shows the spinner, `2000` ms later the first pending
loading timer fires and hides it. -/
theorem spinner_hidden_within (s : State) (h : screen.Reachable s) (hm : s.mounted = true)
    (hl : s.isLoading = true) :
  ∃ s', screen.run s [.elapse 2000, .loadingTimeout] = some s' ∧ s'.isLoading = false
  := by
  obtain ⟨hdue, harmed⟩ := Spinner.reachable h
  cases hlt : s.loadingTimeouts with
  | nil => exact absurd hlt (harmed hl)
  | cons d rest =>
    have hd : d ≤ s.now + 2000 := hdue d (by simp [hlt])
    refine ⟨setIsLoading false { s with now := s.now + 2000, loadingTimeouts := rest }, ?_,
      (setIsLoading_frame _ _).2.2.1⟩
    simp [screen, step, deliver, fire, hm, hlt, hd]

/-- The spinner of the first render is hidden `2000` ms after mounting. -/
theorem spinner_hidden_within_of_mount :
  screen.Reachable initial ∧ initial.mounted = true ∧ initial.isLoading = true ∧
    ∃ s', screen.run initial [.elapse 2000, .loadingTimeout] = some s' ∧ s'.isLoading = false
  := ⟨Machine.Reachable.initial screen, rfl, rfl,
      spinner_hidden_within initial (Machine.Reachable.initial screen) rfl rfl⟩

end CyoloLogin.MultifactorAuthScreen
