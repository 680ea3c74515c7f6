import CyoloLogin.EnrollmentWizard.Screen

/-!
# The step counter of the wizard

`progress s` is the step counter `activeStep` with the steps recorded as skipped.  A step
of the screen leaves it alone, or is a Back click, a Skip click, a call of the latest
`handleNext` (a Next click or an Enter press), or the entry effect's continuation
`loadUserData`, which calls the `handleSkip` of the first render whatever the current
step is (`step_progress`).  From this:

* `activeStep_nonneg`, `skipped_zero`: the counter never goes below `0`, and `0` is the
  only step ever recorded as skipped.
* `finish_by_handleNext`: every move from step `1` to step `2`, except the entry
  continuation's, is a `handleNext` on a render whose enrollment status has a factor:
  a snapshot with a phone number or a TOTP enrollment, or no snapshot yet, where the
  status defaults to SMS.  That `handleNext` issues `saveUserToDB`.
* `finish_without_snapshot`: two Enter presses right after mounting finish the wizard
  before any snapshot has been loaded: the default status passes `handleNext`'s factor
  check.
* `entry_skip_from_step_one`: after a Skip click, the entry continuation moves the
  counter from `1` to `2`.
* `enter_after_completed`: an Enter press on the completed view moves the counter past
  `getSteps.length`.
* `completed_never_left`: once the counter has reached the completed view, no run brings
  it back to step `0` or `1`: the Back button is not rendered on that view, and every
  other move counts up.
-/

namespace CyoloLogin.EnrollmentWizardScreen

variable {phoneNumberScheme : String → Bool}

/-- The step counter and the skipped steps. -/
def progress (s : State) : Int × List Int := (s.activeStep, s.skipped)

/-! ### What each handler does to the counter -/

/-- `handleNext` stays on step `1` without an enrolled factor, and otherwise advances. -/
theorem handleNext_activeStep (s : State) :
  (escape s (handleNext s)).activeStep =
    if s.activeStep = 1 ∧ isEnrolledInSomething s = false then s.activeStep else s.activeStep + 1
  := congrArg State.activeStep (handleNext_eq s)

/-- `handleNext` on step `1` with a factor enrolled commits the enrollment and advances. -/
theorem handleNext_of_one {s : State} (h₁ : s.activeStep = 1) (he : isEnrolledInSomething s = true) :
  escape s (handleNext s) = { askServerToSaveUserToDB s with activeStep := 2, skipped := newSkipped s }
  := by
  rw [handleNext_eq]
  simp [h₁, he, nextRequests, askServerToSaveUserToDB, issue]

/-- `handleNext` on step `0` with a computer name issues its update and advances. -/
theorem handleNext_of_zero {s : State} (h₀ : s.activeStep = 0) (hn : s.computerName ≠ "") :
  escape s (handleNext s) = { updateComputerName s with activeStep := 1, skipped := newSkipped s }
  := by
  rw [handleNext_eq]
  simp [h₀, hn, nextRequests, updateComputerName, issue]

/-- The entry continuation skips a step, whatever the current one, or leaves the counter. -/
theorem progress_loadUserData (v : Option IUser) (s : State) :
  progress (loadUserData v s) = progress s ∨
    progress (loadUserData v s) = (s.activeStep + 1, s.skipped.insert 0)
  := by
  rw [loadUserData_eq]
  split
  · split
    · exact .inr rfl
    · exact .inl rfl
  · exact .inl rfl

/-- How a step moves the counter: a call of the latest `handleNext` (a Next click or an
Enter press), no move, a Back click on a rendered step, or a skip, which is a Skip click
on step `0` or the entry continuation on any step. -/
theorem step_progress {s s' : State} {e : Event} (h : step phoneNumberScheme s e = some s') :
  ((e = .clickNext ∨ e = .pressEnter) ∧ s' = escape s (handleNext s)) ∨
    progress s' = progress s ∨
    (e = .clickBack ∧ showsSteps s = true ∧ s.activeStep ≠ 0 ∧
      s'.activeStep = s.activeStep - 1 ∧ s'.skipped = s.skipped) ∨
    ((e = .clickSkip ∧ s.activeStep = 0 ∨ ∃ v, e = .entryResolved v) ∧
      s'.activeStep = s.activeStep + 1 ∧ s'.skipped = s.skipped.insert 0)
  := by
  apply step_cases h
  case clickNext => exact fun _ _ => .inl ⟨.inl rfl, rfl⟩
  case pressEnter => exact .inl ⟨.inr rfl, rfl⟩
  case clickBack => exact fun hshow hne => .inr (.inr (.inl ⟨rfl, hshow, hne, rfl, rfl⟩))
  case clickSkip =>
    intro _ h₀
    rw [handleSkip_eq (h₀ ▸ rfl), h₀]
    exact .inr (.inr (.inr ⟨.inl ⟨rfl, rfl⟩, rfl, rfl⟩))
  case entryResolved =>
    intro v _
    rcases progress_loadUserData v { s with entryPending := false } with hp | hp
    · exact .inr (.inl hp)
    · exact .inr (.inr (.inr ⟨.inr ⟨v, rfl⟩, (Prod.mk.inj hp).1, (Prod.mk.inj hp).2⟩))
  case poll => exact fun _ _ _ => .inr (.inl ((congrArg progress (render_eq _)).trans rfl))
  case settled => exact fun r o _ => .inr (.inl ((congrArg progress (settle_eq r o _)).trans rfl))
  case completeCode =>
    exact fun code _ => .inr (.inl ((congrArg progress (handleCodeSubmit_eq code s)).trans rfl))
  case clickPhoneSubmit =>
    exact fun _ _ => .inr (.inl ((congrArg progress (handlePhoneSubmission_writes _ _ s)).trans rfl))
  all_goals (intros; exact .inr (.inl rfl))

/-- A Next click or an Enter press is a call of the latest `handleNext`. -/
theorem step_of_next {s s' : State} {e : Event} (h : step phoneNumberScheme s e = some s')
    (he : e = .clickNext ∨ e = .pressEnter) :
  s' = escape s (handleNext s)
  := by
  unfold step at h
  split at h
  case isFalse => cases h
  rcases he with rfl | rfl
  · simp only [deliver, Option.ite_none_right_eq_some, Option.some.injEq] at h
    exact h.2.symm
  · exact (Option.some.inj h).symm

/-! ### Invariants of the counter -/

/-- The step counter never goes below `0`. -/
theorem activeStep_nonneg {s : State} (h : (screen phoneNumberScheme).Reachable s) :
  0 ≤ s.activeStep
  := by
  refine h.induction (I := fun s => 0 ≤ s.activeStep) (Int.le_refl 0)
    fun s e s' (hs : 0 ≤ s.activeStep) he => show 0 ≤ s'.activeStep from ?_
  rcases step_progress he with ⟨-, rfl⟩ | hp | ⟨-, -, hne, hp, -⟩ | ⟨-, hp, -⟩
  · rw [handleNext_activeStep]
    split_ifs <;> omega
  · exact (Prod.mk.inj hp).1 ▸ hs
  all_goals omega

/-- A name typed, Next, then Back: the counter is back at `0`. -/
theorem activeStep_nonneg_of_back :
  ∃ s, (screen fun _ => true).Reachable s ∧ s.activeStep = 0 ∧ 0 ≤ s.activeStep
  := by
  have hr : (screen fun _ => true).Reachable _ := ⟨[.editComputerName "pc", .clickNext, .clickBack], rfl⟩
  exact ⟨_, hr, rfl, activeStep_nonneg hr⟩

/-- A step records no skipped step but `0`. -/
theorem step_skipped {s s' : State} {e : Event} (h : step phoneNumberScheme s e = some s') :
  ∀ x ∈ s'.skipped, x = 0 ∨ x ∈ s.skipped
  := by
  have hins : ∀ x ∈ s.skipped.insert 0, x = 0 ∨ x ∈ s.skipped := fun x => List.mem_insert_iff.mp
  have hsame : ∀ x ∈ s.skipped, x = 0 ∨ x ∈ s.skipped := fun x => .inr
  rcases step_progress h with ⟨-, rfl⟩ | hp | ⟨-, -, -, -, hp⟩ | ⟨-, -, hp⟩
  · rw [handleNext_eq]
    dsimp only
    split_ifs
    · exact hins
    · exact hsame
    · unfold newSkipped
      split
      · exact fun x hx => .inr (List.mem_of_mem_erase hx)
      · exact hsame
  · exact (Prod.mk.inj hp).2 ▸ hsame
  · exact hp ▸ hsame
  · exact hp ▸ hins

/-- `0` is the only step ever recorded as skipped. -/
theorem skipped_zero {s : State} (h : (screen phoneNumberScheme).Reachable s) :
  ∀ x ∈ s.skipped, x = 0
  := by
  refine h.induction (I := fun s => ∀ x ∈ s.skipped, x = 0) (fun x hx => by cases hx)
    fun s e s' hs he x hx => ?_
  rcases step_skipped he x hx with rfl | hx
  · rfl
  · exact hs x hx

/-- A Skip click records step `0`. -/
theorem skipped_zero_of_skip :
  ∃ s, (screen fun _ => true).Reachable s ∧ s.skipped = [0] ∧ ∀ x ∈ s.skipped, x = 0
  := by
  have hr : (screen fun _ => true).Reachable _ := ⟨[.clickSkip], rfl⟩
  exact ⟨_, hr, rfl, skipped_zero hr⟩

/-! ### Finishing the wizard -/

/-- Two Enter presses right after mounting finish the wizard with no snapshot loaded:
the move from step `1` to step `2` is not made on a snapshot with a factor. -/
theorem finish_without_snapshot :
  ¬ ∀ (phoneNumberScheme : String → Bool) (s s' : State) (e : Event),
      (screen phoneNumberScheme).Reachable s → step phoneNumberScheme s e = some s' →
      s.activeStep = 1 → s'.activeStep = 2 →
      (e = .clickNext ∨ e = .pressEnter) ∧
        (∃ u, s.poller.userData = some u ∧ (u.phoneNumber ≠ "" ∨ u.totpEnrolled = true)) ∧
        s'.issued = s.issued ++ [(s.now, .saveUserToDB)]
  := by
  intro h
  obtain ⟨-, ⟨u, hu, -⟩, -⟩ := h (fun _ => true) { initial with activeStep := 1, skipped := [0] }
    { initial with
      activeStep := 2, skipped := [0], outstanding := [.saveUserToDB], issued := [(0, .saveUserToDB)] }
    .pressEnter ⟨[.pressEnter], rfl⟩ rfl rfl rfl
  cases hu

/-- After a Skip click, the entry continuation of a snapshot naming a computer calls the
first render's `handleSkip` on step `1` and moves the counter to `2`. -/
theorem entry_skip_from_step_one :
  ¬ ∀ (phoneNumberScheme : String → Bool) (s s' : State) (u : IUser),
      (screen phoneNumberScheme).Reachable s → u.personalDesktop ≠ "" →
      step phoneNumberScheme s (.entryResolved (some u)) = some s' →
      s.activeStep = 0 ∧ s'.activeStep = 1
  := by
  intro h
  have := (h (fun _ => true) { initial with activeStep := 1, skipped := [0] } _
    ⟨"1", "user", "alice", false, true, "", "", "", "", 1, "pc", false, false, false⟩
    ⟨[.clickSkip], rfl⟩ (by decide) rfl).1
  cases this

/-- Enter presses right after mounting skip step `0`, finish on the default enrollment
status, and, on the completed view, move the counter past `getSteps.length`. -/
theorem enter_after_completed :
  ¬ ∀ (phoneNumberScheme : String → Bool) (s : State),
      (screen phoneNumberScheme).Reachable s →
      0 ≤ s.activeStep ∧ s.activeStep ≤ getSteps.length
  := by
  intro h
  have := (h (fun _ => true) _ ⟨[.pressEnter, .pressEnter, .pressEnter], rfl⟩).2
  cases this

/-! ### The completed view is never left -/

/-- A step from the completed view or past it stays there: the Back button is not
rendered on that view. -/
theorem step_completed {s s' : State} {e : Event} (h : step phoneNumberScheme s e = some s')
    (h₂ : 2 ≤ s.activeStep) :
  2 ≤ s'.activeStep
  := by
  rcases step_progress h with ⟨-, rfl⟩ | hp | ⟨-, hshow, -, hp, -⟩ | ⟨-, hp, -⟩
  · rw [handleNext_activeStep]
    split_ifs <;> omega
  · exact (Prod.mk.inj hp).1 ▸ h₂
  · simp [showsSteps, getSteps] at hshow
    omega
  · omega

/-- Once the counter has reached the completed view, every state a run reaches from there
has it at `2` or past it: the wizard never goes back to step `0` or `1`. -/
theorem completed_never_left (phoneNumberScheme : String → Bool) (s : State) (es : List Event)
    (s' : State) (h₂ : 2 ≤ s.activeStep) (h : (screen phoneNumberScheme).run s es = some s') :
  2 ≤ s'.activeStep
  := (screen phoneNumberScheme).run_preserves (P := fun s => 2 ≤ s.activeStep)
    (fun _ _ _ hs he => step_completed he hs) h₂ h

/-- An Enter press on the completed view and a Back click from the step past it. -/
theorem completed_never_left_of_back :
  ∃ s', 2 ≤ ({ initial with activeStep := 2 } : State).activeStep ∧
    (screen fun _ => true).run { initial with activeStep := 2 } [.pressEnter, .clickBack] = some s' ∧
    2 ≤ s'.activeStep
  := ⟨_, by decide, rfl,
      completed_never_left (fun _ => true) { initial with activeStep := 2 } [.pressEnter, .clickBack] _
        (by decide) rfl⟩

end CyoloLogin.EnrollmentWizardScreen
