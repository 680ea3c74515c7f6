import CyoloLogin.EnrollmentWizard.Steps

/-!
# The requests the wizard sends

`issued` logs every request a handler of the screen sends, with the time it was sent.  A
step sends at most one request, and `Issues` says which one each handler sends and under
which guard (`step_issued`): `handleNext` sends `updateComputerName` of a non-empty name
from step `0` and `saveUserToDB` from step `1` when a factor is enrolled,
`handlePhoneSubmission` sends `initiateSmsMessage` of a number `PhoneNumberScheme`
accepts, and `handleCodeSubmit` sends the enrollment of the current mode.  A property of
every request a handler sends holds of every request in the log (`issued_all`).  From
this:

* `saveUserToDB_at_most_once`: no run commits the enrollment twice, Enter presses, Back
  clicks and the entry continuation included: it is sent only on the move from step `1`,
  and the completed view is never left.
* `computer_names_nonempty`: every `updateComputerName` sent carries a non-empty name.
* `phone_numbers_accepted`: every `initiateSmsMessage` sent carries a number that
  `PhoneNumberScheme` accepts.
* `completed_sends_nothing`: every request is sent from step `0` or `1`, so once the
  wizard has reached its completed view no run sends another request.
-/

namespace CyoloLogin.EnrollmentWizardScreen

variable {phoneNumberScheme : String → Bool}

/-- The request that an event sends when it is delivered in state `s`, with the guard of
the handler that sends it. -/
inductive Issues (phoneNumberScheme : String → Bool) (s : State) : Event → Request → Prop
  | updateComputerName {e : Event} : (e = .clickNext ∨ e = .pressEnter) → s.activeStep = 0 →
      s.computerName ≠ "" → Issues phoneNumberScheme s e (.updateComputerName s.computerName)
  | saveUserToDB {e : Event} : (e = .clickNext ∨ e = .pressEnter) → s.activeStep = 1 →
      isEnrolledInSomething s = true → Issues phoneNumberScheme s e .saveUserToDB
  | initiateSmsMessage : showsPhoneEnrollView s = true → phoneNumberScheme s.phoneNumber = true →
      Issues phoneNumberScheme s .clickPhoneSubmit (.initiateSmsMessage s.phoneNumber)
  | performEnrollWithSMS (code : String) : showsCodeField s = true → s.enrollmentMode = .SMS →
      Issues phoneNumberScheme s (.completeCode code) (.performEnrollWithSMS code)
  | performEnrollWithTOTP (code : String) : showsCodeField s = true → s.enrollmentMode = .QR →
      Issues phoneNumberScheme s (.completeCode code) (.performEnrollWithTOTP code)

/-- Every request is sent from step `0` or step `1`. -/
theorem Issues.activeStep_le {s : State} {e : Event} {r : Request}
    (h : Issues phoneNumberScheme s e r) :
  s.activeStep ≤ 1
  := by
  cases h with
  | updateComputerName _ h₀ _ => omega
  | saveUserToDB _ h₁ _ => omega
  | initiateSmsMessage hshow _ | performEnrollWithSMS _ hshow _ | performEnrollWithTOTP _ hshow _ =>
    simp only [showsCodeField, showsPhoneEnrollView, showsMfaSetupView, Bool.and_eq_true,
      beq_iff_eq] at hshow
    omega

/-! ### What each handler sends -/

/-- `handleNext` sends the update of a non-empty name from step `0`, the commit from
step `1` when a factor is enrolled, and nothing else. -/
theorem issued_handleNext {e : Event} (he : e = .clickNext ∨ e = .pressEnter) (s : State) :
  (escape s (handleNext s)).issued = s.issued ∨
    ∃ r, Issues phoneNumberScheme s e r ∧ (escape s (handleNext s)).issued = s.issued ++ [(s.now, r)]
  := by
  have hlog : (escape s (handleNext s)).issued = s.issued ++ (nextRequests s).map (Prod.mk s.now) :=
    congrArg State.issued (handleNext_eq s)
  rw [hlog]
  unfold nextRequests
  split_ifs with h₀ h₁
  · exact .inr ⟨_, .updateComputerName he h₀.1 h₀.2, rfl⟩
  · exact .inr ⟨_, .saveUserToDB he h₁.1 h₁.2, rfl⟩
  · exact .inl (List.append_nil _)

theorem issued_handlePhoneSubmission {s : State} (hshow : showsPhoneEnrollView s = true) :
  (handlePhoneSubmission phoneNumberScheme s.phoneNumber s).issued = s.issued ∨
    ∃ r, Issues phoneNumberScheme s .clickPhoneSubmit r ∧
      (handlePhoneSubmission phoneNumberScheme s.phoneNumber s).issued = s.issued ++ [(s.now, r)]
  := by
  unfold handlePhoneSubmission
  split
  · exact .inr ⟨_, .initiateSmsMessage hshow ‹_›, rfl⟩
  · exact .inl rfl

theorem issued_handleCodeSubmit (code : String) {s : State} (hshow : showsCodeField s = true) :
  ∃ r, Issues phoneNumberScheme s (.completeCode code) r ∧
    (handleCodeSubmit code s).issued = s.issued ++ [(s.now, r)]
  := by
  rw [handleCodeSubmit_eq]
  cases hm : s.enrollmentMode
  · exact ⟨_, .performEnrollWithSMS code hshow hm, rfl⟩
  · exact ⟨_, .performEnrollWithTOTP code hshow hm, rfl⟩

/-- A step sends nothing, or the one request `Issues` names, at the current time. -/
theorem step_issued {s s' : State} {e : Event} (h : step phoneNumberScheme s e = some s') :
  s'.issued = s.issued ∨ ∃ r, Issues phoneNumberScheme s e r ∧ s'.issued = s.issued ++ [(s.now, r)]
  := by
  apply step_cases h
  case clickNext => exact fun _ _ => issued_handleNext (.inl rfl) s
  case pressEnter => exact issued_handleNext (.inr rfl) s
  case clickPhoneSubmit => exact fun hshow _ => issued_handlePhoneSubmission hshow
  case completeCode => exact fun code hshow => .inr (issued_handleCodeSubmit code hshow)
  case poll => exact fun _ _ _ => .inl ((congrArg State.issued (render_eq _)).trans rfl)
  case entryResolved =>
    exact fun v _ => .inl ((congrArg State.issued (loadUserData_writes v _)).trans rfl)
  case settled => exact fun r o _ => .inl ((congrArg State.issued (settle_eq r o _)).trans rfl)
  case clickSkip =>
    exact fun _ h₀ => .inl ((congrArg State.issued (handleSkip_eq (h₀ ▸ rfl) s)).trans rfl)
  all_goals (intros; exact .inl rfl)

/-- A property of every request a handler sends holds of every request of the log. -/
theorem issued_all {Q : Request → Prop} (hQ : ∀ s e r, Issues phoneNumberScheme s e r → Q r)
    {s : State} (h : (screen phoneNumberScheme).Reachable s) :
  ∀ x ∈ s.issued, Q x.2
  := by
  refine h.induction (I := fun s => ∀ x ∈ s.issued, Q x.2) (fun x hx => nomatch hx)
    fun s e s' hs he => ?_
  rcases step_issued he with hlog | ⟨r, hr, hlog⟩
  · exact hlog ▸ hs
  · intro x hx
    rw [hlog, List.mem_append, List.mem_singleton] at hx
    rcases hx with hx | rfl
    · exact hs x hx
    · exact hQ s e r hr

/-! ### What the log holds -/

/-- Every `updateComputerName` the wizard sends carries a non-empty name. -/
theorem computer_names_nonempty (phoneNumberScheme : String → Bool) (s : State)
    (h : (screen phoneNumberScheme).Reachable s) (t : Nat) (name : String)
    (hmem : (t, .updateComputerName name) ∈ s.issued) :
  name ≠ ""
  := issued_all (Q := fun r => ∀ name, r = .updateComputerName name → name ≠ "")
    (fun s e r hr => by cases hr <;> simp_all) h _ hmem name rfl

/-- The name typed on step `0` is sent by Next. -/
theorem computer_names_nonempty_of_next :
  ∃ s, (screen fun _ => true).Reachable s ∧ (0, .updateComputerName "pc") ∈ s.issued ∧ "pc" ≠ ""
  := by
  have hr : (screen fun _ => true).Reachable _ := ⟨[.editComputerName "pc", .clickNext], rfl⟩
  exact ⟨_, hr, by decide, computer_names_nonempty _ _ hr 0 "pc" (by decide)⟩

/-- Every `initiateSmsMessage` the wizard sends carries a number that `PhoneNumberScheme`
accepts. -/
theorem phone_numbers_accepted (phoneNumberScheme : String → Bool) (s : State)
    (h : (screen phoneNumberScheme).Reachable s) (t : Nat) (phoneNumber : String)
    (hmem : (t, .initiateSmsMessage phoneNumber) ∈ s.issued) :
  phoneNumberScheme phoneNumber = true
  := issued_all (Q := fun r => ∀ p, r = .initiateSmsMessage p → phoneNumberScheme p = true)
    (fun s e r hr => by cases hr <;> simp_all) h _ hmem phoneNumber rfl

/-- A number submitted on the phone view once a snapshot without a phone is loaded. -/
theorem phone_numbers_accepted_of_submission :
  ∃ s, (screen fun _ => true).Reachable s ∧ (2000, .initiateSmsMessage "+972") ∈ s.issued ∧
    (fun _ => true : String → Bool) "+972" = true
  := by
  have hr : (screen fun _ => true).Reachable _ := ⟨[.elapse 2000, .poll .tick,
    .poll (.resolved 0 (some ⟨"1", "user", "alice", false, true, "", "", "", "", 1, "", false, false,
      false⟩)), .pressEnter, .clickChangeMode, .editPhoneNumber "+972", .clickPhoneSubmit], rfl⟩
  exact ⟨_, hr, by decide, phone_numbers_accepted _ _ hr 2000 "+972" (by decide)⟩

/-- The commits of a log. -/
def commits (s : State) : List Nat := issuedAt (· == .saveUserToDB) s.issued

/-- Before the completed view no commit has been sent, and after it at most one. -/
theorem step_commits {s s' : State} {e : Event} (h : step phoneNumberScheme s e = some s')
    (hs : (s.activeStep < 2 → commits s = []) ∧ (commits s).length ≤ 1) :
  (s'.activeStep < 2 → commits s' = []) ∧ (commits s').length ≤ 1
  := by
  have h₂ : 2 ≤ s.activeStep → 2 ≤ s'.activeStep := step_completed h
  have frame : commits s' = commits s → (s'.activeStep < 2 → commits s' = []) ∧ (commits s').length ≤ 1 :=
    fun heq => heq ▸ ⟨fun hlt => hs.1 (by omega), hs.2⟩
  rcases step_issued h with hlog | ⟨r, hr, hlog⟩
  · exact frame (by rw [commits, hlog]; rfl)
  · cases hr with
    | saveUserToDB hnext h₁ hfactor =>
      have hs' := step_of_next h hnext
      rw [handleNext_of_one h₁ hfactor] at hs'
      subst hs'
      have hnone := hs.1 (by omega)
      simp only [commits, issuedAt_append, issuedAt_singleton] at hnone ⊢
      simp [hnone, askServerToSaveUserToDB, issue]
    | _ => exact frame (by simp [commits, hlog])

/-- No run of the wizard sends `saveUserToDB` twice. -/
theorem saveUserToDB_at_most_once (phoneNumberScheme : String → Bool) (s : State)
    (h : (screen phoneNumberScheme).Reachable s) :
  (issuedAt (· == .saveUserToDB) s.issued).length ≤ 1
  := (h.induction (I := fun s => (s.activeStep < 2 → commits s = []) ∧ (commits s).length ≤ 1)
    ⟨fun _ => rfl, Nat.zero_le 1⟩ fun _ _ _ hs he => step_commits he hs).2

/-- Three Enter presses from mounting: the second commits, the third does not. -/
theorem saveUserToDB_at_most_once_of_enter :
  ∃ s, (screen fun _ => true).Reachable s ∧ issuedAt (· == .saveUserToDB) s.issued = [0] ∧
    (issuedAt (· == .saveUserToDB) s.issued).length ≤ 1
  := by
  have hr : (screen fun _ => true).Reachable _ := ⟨[.pressEnter, .pressEnter, .pressEnter], rfl⟩
  exact ⟨_, hr, rfl, saveUserToDB_at_most_once _ _ hr⟩

/-! ### Nothing is sent after the wizard completes -/

/-- A step from the completed view, or past it, sends nothing. -/
theorem step_issued_of_completed {s s' : State} {e : Event} (h : step phoneNumberScheme s e = some s')
    (h₂ : 2 ≤ s.activeStep) :
  s'.issued = s.issued
  := by
  rcases step_issued h with hlog | ⟨r, hr, -⟩
  · exact hlog
  · exact absurd hr.activeStep_le (by omega)

/-- Once the wizard has reached its completed view, no run sends another request, whatever
the user presses and however the outstanding requests settle. -/
theorem completed_sends_nothing (phoneNumberScheme : String → Bool) (s : State) (es : List Event)
    (s' : State) (h₂ : 2 ≤ s.activeStep) (h : (screen phoneNumberScheme).run s es = some s') :
  s'.issued = s.issued
  := ((screen phoneNumberScheme).run_preserves (P := fun t => 2 ≤ t.activeStep ∧ t.issued = s.issued)
    (fun _ _ _ ht he => ⟨step_completed he ht.1, (step_issued_of_completed he ht.1).trans ht.2⟩)
    ⟨h₂, rfl⟩ h).2

/-- Enter, Back and Enter again on the completed view. -/
theorem completed_sends_nothing_of_enter :
  ∃ s', 2 ≤ ({ initial with activeStep := 2 } : State).activeStep ∧
    (screen fun _ => true).run { initial with activeStep := 2 } [.pressEnter, .clickBack, .pressEnter] =
      some s' ∧
    s'.issued = ({ initial with activeStep := 2 } : State).issued
  := ⟨_, by decide, rfl,
      completed_sends_nothing (fun _ => true) { initial with activeStep := 2 }
        [.pressEnter, .clickBack, .pressEnter] _ (by decide) rfl⟩

end CyoloLogin.EnrollmentWizardScreen
