import CyoloLogin.EnrollmentWizard.Steps

/-!
# The entry effect

The entry effect's `getUserData` call is the only thing that sets `canFinish`: its
`finally` clause does, whether the call resolves or rejects.  `entryFlags` is the pair
`canFinish`, `entryPending`; every handler but `loadUserData` leaves it alone
(`step_entryFlags`).  From this:

* `canFinish_iff_entry_settled`: in every reachable state `canFinish` holds exactly when
  the entry call has settled.
* `next_does_not_await_computer_name`: a `handleNext` from step `0` with a computer name
  issues `updateComputerName` and moves to step `1` in the same event, and on step `1`
  the Finish button is rendered exactly when a factor is enrolled and the entry call has
  settled, whatever device-name updates are outstanding.
* `finish_with_update_outstanding`: Finish is rendered on step `1` while the update of
  the computer name is outstanding.

The redirect of an enrolled user is made by the render, from the poller's snapshot, and
not by the entry continuation:

* `entry_enrolled_then_commit`: the entry continuation ignores `enrolled`, and an Enter
  press after it commits the enrollment again.
-/

namespace CyoloLogin.EnrollmentWizardScreen

variable {phoneNumberScheme : String → Bool}

/-- `canFinish` and `entryPending`. -/
def entryFlags (s : State) : Bool × Bool := (s.canFinish, s.entryPending)

/-! ### Only the entry effect sets `canFinish` -/

/-- A step settles the entry call, setting `canFinish`, or leaves both flags alone: no
handler but the entry continuation writes them. -/
theorem step_entryFlags {s s' : State} {e : Event} (h : step phoneNumberScheme s e = some s') :
  entryFlags s' = entryFlags s ∨ entryFlags s' = (true, false)
  := by
  apply step_cases h
  case entryResolved =>
    exact fun v _ => .inr ((congrArg entryFlags (loadUserData_writes v _)).trans rfl)
  case entryRejected => exact fun _ => .inr rfl
  case poll => exact fun _ _ _ => .inl ((congrArg entryFlags (render_eq _)).trans rfl)
  case settled => exact fun r o _ => .inl ((congrArg entryFlags (settle_eq r o _)).trans rfl)
  case clickNext => exact fun _ _ => .inl ((congrArg entryFlags (handleNext_eq s)).trans rfl)
  case pressEnter => exact .inl ((congrArg entryFlags (handleNext_eq s)).trans rfl)
  case clickSkip =>
    exact fun _ h₀ => .inl ((congrArg entryFlags (handleSkip_eq (h₀ ▸ rfl) s)).trans rfl)
  case completeCode =>
    exact fun code _ => .inl ((congrArg entryFlags (handleCodeSubmit_eq code s)).trans rfl)
  case clickPhoneSubmit =>
    exact fun _ _ => .inl ((congrArg entryFlags (handlePhoneSubmission_writes _ _ s)).trans rfl)
  all_goals (intros; exact .inl rfl)

/-- `canFinish` holds exactly when the entry call has settled. -/
theorem canFinish_iff_entry_settled {s : State} (h : (screen phoneNumberScheme).Reachable s) :
  s.canFinish = true ↔ s.entryPending = false
  := by
  refine h.induction (I := fun s => s.canFinish = true ↔ s.entryPending = false)
    (show false = true ↔ true = false by simp)
    fun s e s' (hs : s.canFinish = true ↔ s.entryPending = false) he =>
      show s'.canFinish = true ↔ s'.entryPending = false from ?_
  have hflags : s'.canFinish = s.canFinish ∧ s'.entryPending = s.entryPending ∨
      s'.canFinish = true ∧ s'.entryPending = false := by
    simpa only [entryFlags, Prod.mk.injEq] using step_entryFlags he
  rcases hflags with ⟨h₁, h₂⟩ | ⟨h₁, h₂⟩
  · rw [h₁, h₂]
    exact hs
  · simp [h₁, h₂]

/-! ### `handleNext` does not wait for the computer name -/

/-- A `handleNext` from step `0` with a computer name issues `updateComputerName` and
moves to step `1` in the same event; on step `1` the Finish button is rendered exactly
when a factor is enrolled and the entry call has settled. -/
theorem next_does_not_await_computer_name (phoneNumberScheme : String → Bool) :
  (∀ s e s', step phoneNumberScheme s e = some s' → (e = .clickNext ∨ e = .pressEnter) →
      s.activeStep = 0 → s.computerName ≠ "" →
      s'.activeStep = 1 ∧ s'.outstanding = s.outstanding ++ [.updateComputerName s.computerName]) ∧
  (∀ s, (screen phoneNumberScheme).Reachable s → s.activeStep = 1 →
      (canPressNext s = true ↔ isEnrolledInSomething s = true ∧ s.entryPending = false))
  := by
  refine ⟨fun s e s' h he h₀ hn => ?_, fun s hr h₁ => ?_⟩
  · rw [step_of_next h he, handleNext_of_zero h₀ hn]
    exact ⟨rfl, rfl⟩
  · rw [← canFinish_iff_entry_settled hr]
    simp [canPressNext, h₁, getSteps]

/-- A name typed on step `0`, then Enter: the update is sent and the counter moves to `1`. -/
theorem next_does_not_await_computer_name_of_typed :
  ∃ s s', step (fun _ => true) s .pressEnter = some s' ∧
    s'.activeStep = 1 ∧ s'.outstanding = [.updateComputerName "pc"]
  := by
  have h := (next_does_not_await_computer_name (fun _ => true)).1
    { initial with computerName := "pc" } .pressEnter _ rfl (.inr rfl) rfl (by decide)
  exact ⟨{ initial with computerName := "pc" }, _, rfl, h⟩

/-- Finish is rendered on step `1` while the update of the computer name is outstanding:
after an entry call that rejects, a typed name and a Next click. -/
theorem finish_with_update_outstanding :
  ¬ ∀ (phoneNumberScheme : String → Bool) (s : State), (screen phoneNumberScheme).Reachable s →
      s.activeStep = 1 → canPressNext s = true → ∀ n, Request.updateComputerName n ∉ s.outstanding
  := by
  intro h
  exact h (fun _ => true) _ ⟨[.entryRejected, .editComputerName "pc", .clickNext], rfl⟩ rfl rfl "pc"
    (by decide)

/-! ### The entry continuation and `enrolled` -/

/-- The entry continuation ignores `enrolled`: with a snapshot naming a computer it skips
step `0`, and an Enter press then commits the enrollment again. -/
theorem entry_enrolled_then_commit :
  ¬ ∀ (phoneNumberScheme : String → Bool) (u : IUser) (es : List Event) (s : State),
      u.enrolled = true →
      (screen phoneNumberScheme).run initial (.entryResolved (some u) :: es) = some s →
      s.issued = []
  := by
  intro h
  have := h (fun _ => true) ⟨"1", "user", "alice", false, true, "", "", "", "", 1, "pc", true, false, false⟩
    [.pressEnter] _ rfl rfl
  cases this

end CyoloLogin.EnrollmentWizardScreen
