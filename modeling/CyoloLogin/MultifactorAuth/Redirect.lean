import CyoloLogin.MultifactorAuth.Screen

/-!
# The redirect of a verified session

The render body of `MultifactorAuthScreen` pushes `redirect` when the snapshot is of a
user other than `anonymous` with `auth_level > 1`.  A new snapshot is a new object, so
`setUserData` renders whenever it publishes one, and no handler changes the snapshot or
mounts the screen again.  So every reachable state satisfies `Left`: while the screen is
mounted, its snapshot is not of a verified user.

* `verified_session_leaves`: in every reachable state where the screen is still mounted,
  the published snapshot is of `anonymous` or has `auth_level` at most `1`; the code
  field and the SMS link are never offered to a verified session.
-/

namespace CyoloLogin.MultifactorAuthScreen

/-- While the screen is mounted, the snapshot is not of a verified user. -/
def Left (s : State) : Prop :=
  s.mounted = true → ∀ u, s.poller.userData = some u → ¬ (u.name ≠ "anonymous" ∧ u.authLevel > 1)

/-- `Left` reads only the snapshot and `mounted`, and a screen is never mounted again. -/
theorem Left.frame {s s' : State} (hi : Left s) (hu : s'.poller.userData = s.poller.userData)
    (hm : s'.mounted = true → s.mounted = true) :
  Left s'
  := fun hmounted u hs => hi (hm hmounted) u (hu ▸ hs)

/-- A render leaves a verified session. -/
theorem left_rerender (s : State) : Left (rerender s) := by
  rw [rerender_eq]
  intro hm u (hu : s.poller.userData = some u) hverified
  simp [redirects, hu, hverified] at hm

theorem left_setIsLoading (b : Bool) {s : State} (hi : Left s) : Left (setIsLoading b s) := by
  unfold setIsLoading
  split
  · exact hi
  · exact left_rerender _

theorem left_setMfaMode (m : MfaModes) {s : State} (hi : Left s) : Left (setMfaMode m s) := by
  unfold setMfaMode
  split
  · exact hi
  · exact left_rerender _

theorem left_settle (r : Request) (o : Outcome) {s : State} (hi : Left s) : Left (settle r o s) := by
  cases r <;> cases o
  case initiateMfaSmsMessage.resolved => exact left_rerender _
  case initiateMfaSmsMessage.rejected => exact (left_rerender _).frame rfl id
  case performTotpConfirmation.resolved | performTotpConfirmation.rejected =>
    exact left_setIsLoading false (left_rerender _)
  all_goals exact hi

theorem Left.step {s s' : State} {e : Event} (hi : Left s) (h : step s e = some s') : Left s' := by
  apply step_cases h
  case pollTick => exact fun p hp => hi.frame (Poller.step_userData_eq hp) id
  case pollRejected => exact fun _ p hp => hi.frame (Poller.step_userData_eq hp) id
  case pollResolved =>
    intro _ _ p _
    unfold setUserData
    split
    · rename_i hnone
      intro _ u hu
      rw [hnone.1] at hu
      cases hu
    · exact left_rerender _
  case entryResolved =>
    intro v _
    rw [loadUserData_eq]
    exact hi.frame rfl fun hm => (Bool.and_eq_true _ _).mp hm |>.1
  case settled => exact fun r o _ => left_settle r o (hi.frame rfl id)
  case loadingTimeout => exact fun _ _ _ _ => left_setIsLoading false (hi.frame rfl id)
  case revertTimeout => exact fun _ _ _ _ => left_setMfaMode _ (hi.frame rfl id)
  case clickModeLink =>
    intro _
    rw [handleModeChange_eq]
    split
    · exact (left_setMfaMode _ hi).frame rfl id
    · exact left_setMfaMode _ hi
  case completeCode =>
    intro code _
    rw [handleCodeCompletion_eq]
    split
    · exact left_rerender _
    · exact (left_setIsLoading true hi).frame rfl id
  case closeSnackbar => exact fun _ => left_rerender _
  all_goals (intros; exact hi.frame rfl id)

/-- In every reachable state where the screen is mounted, the published snapshot is of
`anonymous` or has `auth_level` at most `1`. -/
theorem verified_session_leaves (s : State) (h : screen.Reachable s) (hm : s.mounted = true)
    (u : IUser) (hu : s.poller.userData = some u) :
  u.name = "anonymous" ∨ u.authLevel ≤ 1
  := by
  have := h.induction (I := Left) (fun _ _ hu => nomatch hu) fun _ _ _ hi hs => hi.step hs
  by_cases hname : u.name = "anonymous"
  · exact .inl hname
  · exact .inr (Int.not_lt.mp fun hlevel => this hm u hu ⟨hname, hlevel⟩)

/-- A snapshot at `auth_level` `1` keeps the screen mounted. -/
theorem verified_session_leaves_of_first_factor :
  ∃ s u, screen.Reachable s ∧ s.mounted = true ∧ s.poller.userData = some u ∧
    (u.name = "anonymous" ∨ u.authLevel ≤ 1)
  := by
  have hr : screen.Reachable _ := ⟨[.elapse 2000, .poll .tick,
    .poll (.resolved 0 (some ⟨"1", "user", "alice", false, true, "", "", "", "", 1, "", true, false,
      true⟩))], rfl⟩
  exact ⟨_, _, hr, rfl, rfl, verified_session_leaves _ hr rfl _ rfl⟩

end CyoloLogin.MultifactorAuthScreen
