import CyoloLogin.MultifactorAuth.Screen

/-!
# SMS sends and the mode revert

`handleModeChange` inverts `mfaMode` and, on a switch to SMS, calls `initiateSmsSending`,
which issues `initiateMfaSmsMessage` at once: the screen keeps no record of earlier
sends.  When the send fails, a timer sets the mode back to TTOP `1500` ms later, and no
later event removes that timer.

* `step_smsSends`: a step issues `initiateMfaSmsMessage` exactly when it is a click on
  the mode link from TTOP, however recent the last send.
* `two_sends_at_once`: three clicks at one instant issue two sends at that instant.
* `revert_not_cancelled`: a failed send arms a revert `1500` ms after the failure; no
  event but a revert removes a pending one, and a revert sets TTOP, whatever mode the
  user has chosen since.
* `revert_overrides_later_choice`: a switch to SMS made after a send failed is undone by
  that failure's revert.
-/

namespace CyoloLogin.MultifactorAuthScreen

/-- The times at which `initiateMfaSmsMessage` was issued. -/
def smsSends (s : State) : List Nat := issuedAt (· == .initiateMfaSmsMessage) s.issued

/-! ### What each step issues -/

/-- A step issues `initiateMfaSmsMessage` exactly when it is a click on the mode link
from TTOP, and then at the current time. -/
theorem step_smsSends {s s' : State} {e : Event} (h : step s e = some s') :
  smsSends s' = smsSends s ++ if e = .clickModeLink ∧ s.mfaMode = .TTOP then [s.now] else []
  := by
  apply step_cases h
  case clickModeLink =>
    intro _
    rw [handleModeChange_eq]
    cases hm : s.mfaMode <;> simp [smsSends, issue, hm]
  all_goals simp only [reduceCtorEq, false_and, if_false, List.append_nil]
  case completeCode =>
    intro code _
    rw [handleCodeCompletion_eq]
    split <;> simp [smsSends, setAlertStatus, issue]
  case pollResolved => exact fun _ _ p _ => (congrArg smsSends (setUserData_writes p s)).trans rfl
  case entryResolved => exact fun v _ => (congrArg smsSends (loadUserData_eq v _)).trans rfl
  case settled => exact fun r o _ => (congrArg smsSends (settle_writes r o _)).trans rfl
  all_goals (intros; simp [smsSends, setAlertStatus])

/-- A click on the SMS link, with a snapshot that has a phone number, sends now. -/
theorem step_smsSends_of_switch :
  ∃ s s', step s .clickModeLink = some s' ∧ smsSends s' = smsSends s ++ [s.now]
  := by
  let s : State := { initial with
    isLoading := false,
    poller := { initial.poller with
      userData := some ⟨"1", "user", "alice", false, true, "5", "", "", "", 1, "", true, false, false⟩ } }
  have h : step s .clickModeLink = some (handleModeChange s) := rfl
  exact ⟨s, _, h, by rw [step_smsSends h]; rfl⟩

/-- Three clicks on the mode link at one instant, once a snapshot with both factors is
loaded, issue two `initiateMfaSmsMessage` requests at that instant. -/
theorem two_sends_at_once :
  ¬ ∀ s, screen.Reachable s → (smsSends s).Pairwise fun t t' => t + 3000 ≤ t'
  := by
  intro h
  have := h _ ⟨[.elapse 2000, .poll .tick,
    .poll (.resolved 0 (some ⟨"1", "user", "alice", false, true, "5", "", "", "", 1, "", true, false,
      true⟩)), .loadingTimeout, .clickModeLink, .clickModeLink, .clickModeLink], rfl⟩
  exact absurd this (by decide)

/-! ### The revert of a failed send -/

theorem settle_revertTimeouts (r : Request) (o : Outcome) (s : State) :
  s.revertTimeouts <+: (settle r o s).revertTimeouts
  := by
  cases r <;> cases o <;>
    simp [settle, initiateSmsSendingSettled, handleCodeCompletionSettled, setAlertStatus]

/-- Only a revert removes a pending revert timer. -/
theorem step_revertTimeouts {s s' : State} {e : Event} (he : e ≠ .revertTimeout)
    (h : step s e = some s') :
  s.revertTimeouts <+: s'.revertTimeouts
  := by
  revert he
  apply step_cases h
  case revertTimeout => exact fun _ _ _ _ he => absurd rfl he
  case settled =>
    exact fun r o _ _ => settle_revertTimeouts r o { s with outstanding := s.outstanding.erase r }
  case clickModeLink =>
    intro _ _
    rw [handleModeChange_eq]
    split <;> simp [issue]
  case completeCode =>
    intro code _ _
    rw [handleCodeCompletion_eq]
    split <;> simp [setAlertStatus, issue]
  case pollResolved =>
    intro _ _ p _ _
    have hkeep : (setUserData p s).revertTimeouts = s.revertTimeouts :=
      (congrArg State.revertTimeouts (setUserData_writes p s)).trans rfl
    simp only [hkeep, List.prefix_refl]
  case entryResolved =>
    intro v _ _
    have hkeep : (loadUserData v { s with entryPending := false }).revertTimeouts = s.revertTimeouts :=
      (congrArg State.revertTimeouts (loadUserData_eq v _)).trans rfl
    simp only [hkeep, List.prefix_refl]
  case loadingTimeout => exact fun _ _ _ _ _ => by simp
  case closeSnackbar => exact fun _ _ => by simp [setAlertStatus]
  all_goals (intros; exact List.prefix_refl _)

/-- A failed send arms a revert `1500` ms after the failure; until a revert fires, every
event keeps the pending reverts; and a revert sets the mode to TTOP, whatever the mode
is then. -/
theorem revert_not_cancelled :
  (∀ s s' message, step s (.settled .initiateMfaSmsMessage (.rejected message)) = some s' →
      s'.revertTimeouts = s.revertTimeouts ++ [s.now + 1500]) ∧
  (∀ s es s', screen.run s es = some s' → .revertTimeout ∉ es →
      s.revertTimeouts <+: s'.revertTimeouts) ∧
  (∀ s s', step s .revertTimeout = some s' → s'.mfaMode = .TTOP)
  := by
  refine ⟨fun s s' message h => ?_, fun s es s' h hes => ?_, fun s s' h => ?_⟩
  · simp only [step, deliver, Option.ite_none_right_eq_some, Option.some.injEq] at h
    obtain ⟨-, -, rfl⟩ := h
    simp [settle, initiateSmsSendingSettled, setAlertStatus]
  · exact screen.run_rel (R := fun s s' => s.revertTimeouts <+: s'.revertTimeouts)
      (fun s => List.prefix_refl s.revertTimeouts) (fun _ _ _ => List.IsPrefix.trans)
      (fun _ e _ hmem hstep => step_revertTimeouts (fun h => hes (h ▸ hmem)) hstep) h
  · simp only [step, deliver, Option.ite_none_right_eq_some, Option.map_eq_some'] at h
    obtain ⟨-, rest, -, rfl⟩ := h
    simp

/-- A send fails at `2000` ms; its revert, due `1500` ms later, survives a switch to TTOP
and back, and then sets TTOP. -/
theorem revert_not_cancelled_of_switches :
  ∃ s₁ s₂ s₃ s₄, step s₁ (.settled .initiateMfaSmsMessage (.rejected "")) = some s₂ ∧
    s₂.revertTimeouts = s₁.revertTimeouts ++ [s₁.now + 1500] ∧
    screen.run s₂ [.clickModeLink, .clickModeLink, .elapse 1500] = some s₃ ∧
    s₂.revertTimeouts <+: s₃.revertTimeouts ∧ s₃.mfaMode = .SMS ∧
    step s₃ .revertTimeout = some s₄ ∧ s₄.mfaMode = .TTOP
  := by
  obtain ⟨hfail, hkeep, hrevert⟩ := revert_not_cancelled
  let s₁ : State := { initial with
    now := 2000, isLoading := false, mfaMode := .SMS, loadingTimeouts := [],
    outstanding := [.initiateMfaSmsMessage],
    poller := { initial.poller with
      userData := some ⟨"1", "user", "alice", false, true, "5", "", "", "", 1, "", true, false, true⟩ } }
  let s₃ : State := { s₁ with
    now := 3500, alertStatus := .raise .error "failed to send sms message",
    loadingTimeouts := [4000, 4000, 4000], revertTimeouts := [3500],
    issued := [(2000, .initiateMfaSmsMessage)] }
  let s₂ := settle .initiateMfaSmsMessage (.rejected "") { s₁ with outstanding := [] }
  have h₁ : step s₁ (.settled .initiateMfaSmsMessage (.rejected "")) = some s₂ := rfl
  have h₂ : screen.run s₂ [.clickModeLink, .clickModeLink, .elapse 1500] = some s₃ := by decide
  have h₃ : step s₃ .revertTimeout = some (setMfaMode .TTOP { s₃ with revertTimeouts := [] }) :=
    rfl
  exact ⟨s₁, s₂, s₃, _, h₁, hfail _ _ _ h₁, h₂, hkeep _ _ _ h₂ (by decide), rfl, h₃,
    hrevert _ _ h₃⟩

/-- A send fails while the mode is SMS; the user switches to TTOP and back to SMS within
`1500` ms; then the failure's revert sets TTOP over the user's later choice. -/
theorem revert_overrides_later_choice :
  let es : List Event := [.elapse 2000, .poll .tick,
    .poll (.resolved 0 (some ⟨"1", "user", "alice", false, true, "5", "", "", "", 1, "", true, false,
      true⟩)), .loadingTimeout, .clickModeLink, .settled .initiateMfaSmsMessage (.rejected ""),
    .clickModeLink, .clickModeLink]
  (screen.run initial es).map (·.mfaMode) = some .SMS ∧
    (screen.run initial (es ++ [.elapse 1500, .revertTimeout])).map (·.mfaMode) = some .TTOP
  := by
  decide

end CyoloLogin.MultifactorAuthScreen
