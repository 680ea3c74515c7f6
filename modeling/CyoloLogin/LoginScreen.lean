import CyoloLogin.Run
import CyoloLogin.Services.AuthAPI

/-!
# The login screen

`LoginScreen` as a `Machine`.  `handleSignIn` validates the fields with `UsernameScheme`
and `PasswordScheme`, then sets `isLoading` and calls `performLogin`; the Login button is
replaced by a spinner while `isLoading` holds.  `Mousetrap.bindGlobal` binds Enter to
the latest `handleSignIn` after every render, in the fields too, and the binding does not
read `isLoading`.  A resolved login assigns `window.location.href`, which starts a
navigation but stops nothing on the page.

* `clicks_keep_one_login`: in a run without Enter presses, a `performLogin` request is
  outstanding exactly while `isLoading` holds, so there is never more than one.
* `double_enter_two_logins`: two Enter presses on valid credentials leave two
  `performLogin` requests outstanding.

Whatever the user presses, every reachable state satisfies `Invariant`, from which:

* `logins_carry_valid_credentials`: every outstanding `performLogin` carries a username
  and a password that pass `UsernameScheme` and `PasswordScheme`.
* `spinner_only_while_login_pending`: the spinner replaces the Login button only while a
  `performLogin` request is outstanding.
* `flagged_fields_invalid`: a field is marked as an error only while its value fails its
  scheme.
-/

namespace CyoloLogin.LoginScreen

/-- `UsernameScheme`: `Joi.string().min(3).max(64).required()`, whose bounds count the
string's UTF-16 code units. -/
def UsernameScheme (username : String) : Bool :=
  3 ≤ jsLength username && jsLength username ≤ 64

/-- `PasswordScheme`: `Joi.string().min(2).max(64).required()`, whose bounds count the
string's UTF-16 code units. -/
def PasswordScheme (password : String) : Bool :=
  2 ≤ jsLength password && jsLength password ≤ 64

/-- Which fields failed validation. -/
structure ValidationErrors where
  username : Bool
  password : Bool
  deriving DecidableEq, Repr

/-- The state of `LoginScreen`: its React state, the `performLogin` requests that have not
settled, and where `window.location.href` has been sent. -/
structure State where
  alertStatus : AlertStatus
  username : String
  password : String
  isLoading : Bool
  validationErrors : ValidationErrors
  outstanding : List Request
  location : Option String
  deriving DecidableEq, Repr

/-- The first render. -/
def initial : State :=
  ⟨.initial, "", "", false, ⟨false, false⟩, [], none⟩

/-- `handleSignIn` of the latest render, up to its `await`. -/
def handleSignIn (s : State) : State :=
  let errors : ValidationErrors :=
    ⟨!UsernameScheme s.username, !PasswordScheme s.password⟩
  if errors.username || errors.password then
    { s with validationErrors := errors }
  else
    { s with isLoading := true,
             outstanding := s.outstanding ++ [.performLogin s.username s.password] }

/-- The events the browser delivers to the screen: field edits, a click on the rendered
Login button, an Enter press, the settling of a `performLogin` request with the
`redirect_uri` it resolves with or the message it rejects with, and the snackbar closing. -/
inductive Event where
  | editUsername (value : String)
  | editPassword (value : String)
  | clickLogin
  | pressEnter
  | loginResolved (username password redirectUri : String)
  | loginRejected (username password message : String)
  | closeSnackbar
  deriving DecidableEq, Repr

/-- The screen's reaction to an event. -/
def step (s : State) : Event → Option State
  | .editUsername v =>
    some { s with validationErrors := { s.validationErrors with username := false }, username := v }
  | .editPassword v =>
    some { s with validationErrors := { s.validationErrors with password := false }, password := v }
  | .clickLogin => if s.isLoading then none else some (handleSignIn s)
  | .pressEnter => some (handleSignIn s)
  | .loginResolved u p uri =>
    if .performLogin u p ∈ s.outstanding then
      some { s with outstanding := s.outstanding.erase (.performLogin u p), location := some uri,
                    isLoading := false }
    else none
  | .loginRejected u p message =>
    if .performLogin u p ∈ s.outstanding then
      some { s with outstanding := s.outstanding.erase (.performLogin u p),
                    alertStatus := .raise .error message, isLoading := false }
    else none
  | .closeSnackbar => if s.alertStatus.show then some { s with alertStatus := .closed } else none

/-- `LoginScreen`. -/
def screen : Machine State Event := ⟨initial, step⟩

/-- The number of outstanding `performLogin` requests. -/
def logins (s : State) : Nat := s.outstanding.countP fun r => r matches .performLogin ..

/-- Every event but an Enter press keeps one login outstanding while `isLoading` holds,
and none otherwise. -/
theorem step_logins {s s' : State} {e : Event} (he : e ≠ .pressEnter)
    (hs : logins s = if s.isLoading then 1 else 0) (h : step s e = some s') :
  logins s' = if s'.isLoading then 1 else 0
  := by
  cases e with
  | pressEnter => exact absurd rfl he
  | clickLogin =>
    simp only [step, Option.ite_none_left_eq_some, Option.some.injEq] at h
    obtain ⟨hl, rfl⟩ := h
    simp only [hl, if_false, handleSignIn] at hs ⊢
    split_ifs <;> simp_all [logins, List.countP_append]
  | loginResolved u p uri | loginRejected u p uri =>
    simp only [step, Option.ite_none_right_eq_some, Option.some.injEq] at h
    obtain ⟨hmem, rfl⟩ := h
    have hperm := (List.perm_cons_erase hmem).countP_eq fun r => r matches .performLogin ..
    simp only [List.countP_cons, if_true] at hperm
    simp only [logins, Bool.false_eq_true, if_false] at hs ⊢
    split at hs <;> omega
  | editUsername _ | editPassword _ | closeSnackbar =>
    simp only [step, Option.ite_none_right_eq_some, Option.some.injEq] at h
    obtain ⟨-, rfl⟩ := h
    exact hs

/-- Without Enter presses, a `performLogin` request is outstanding exactly while
`isLoading` holds: the Login button alone never lets two overlap. -/
theorem clicks_keep_one_login {es : List Event} {s : State} (hes : .pressEnter ∉ es)
    (h : screen.run initial es = some s) :
  logins s = if s.isLoading then 1 else 0
  := screen.run_rel (R := fun s s' => (logins s = if s.isLoading then 1 else 0) →
      logins s' = if s'.isLoading then 1 else 0) (fun _ h => h) (fun _ _ _ h₁ h₂ h => h₂ (h₁ h))
    (fun _ _ _ hmem hstep hs => step_logins (fun h => hes (h ▸ hmem)) hs hstep) h rfl

/-- A click on the Login button with valid credentials: one login, and the spinner. -/
theorem clicks_keep_one_login_of_click :
  ∃ s, Event.pressEnter ∉ [.editUsername "admin", .editPassword "secret", .clickLogin] ∧
    screen.run initial [.editUsername "admin", .editPassword "secret", .clickLogin] = some s ∧
    logins s = if s.isLoading then 1 else 0
  := ⟨_, by decide, rfl,
      @clicks_keep_one_login [.editUsername "admin", .editPassword "secret", .clickLogin] _
        (by decide) rfl⟩

/-- Two Enter presses on valid credentials, before the first request settles, leave two
`performLogin` requests outstanding. -/
theorem double_enter_two_logins :
  ¬ ∀ s, screen.Reachable s → (s.outstanding.filter fun r => r matches .performLogin ..).length ≤ 1
  := by
  intro h
  have := h _ ⟨[.editUsername "admin", .editPassword "secret", .pressEnter, .pressEnter], rfl⟩
  exact absurd this (by decide)

/-! ### What every run keeps -/

/-- What holds of every reachable state: the requests carry credentials that passed the
schemes, the spinner shows only while a request is outstanding, and an error flag is set
only on a field whose value fails its scheme. -/
structure Invariant (s : State) : Prop where
  credentials : ∀ u p, .performLogin u p ∈ s.outstanding →
    UsernameScheme u = true ∧ PasswordScheme p = true
  loading : s.isLoading = true → 0 < logins s
  flagged_username : s.validationErrors.username = true → UsernameScheme s.username = false
  flagged_password : s.validationErrors.password = true → PasswordScheme s.password = false

theorem Invariant.initial : Invariant initial :=
  ⟨(fun _ _ h => nomatch h), nofun, nofun, nofun⟩

/-- `handleSignIn` either flags the fields that fail, or sends the credentials, which
pass. -/
theorem Invariant.handleSignIn {s : State} (hi : Invariant s) : Invariant (handleSignIn s) := by
  unfold LoginScreen.handleSignIn
  dsimp only
  split
  · exact ⟨hi.credentials, hi.loading, fun h => by simpa using h, fun h => by simpa using h⟩
  · rename_i hvalid
    simp only [Bool.or_eq_true, Bool.not_eq_true', not_or, Bool.not_eq_false] at hvalid
    refine ⟨fun u p hmem => ?_, fun _ => ?_, hi.flagged_username, hi.flagged_password⟩
    · rcases List.mem_append.mp hmem with hmem | hmem
      · exact hi.credentials u p hmem
      · obtain ⟨rfl, rfl⟩ := Request.performLogin.inj (List.mem_singleton.mp hmem)
        exact hvalid
    · simp [logins, List.countP_append]

/-- A settled request leaves the outstanding ones with their credentials, and hides the
spinner. -/
theorem Invariant.settle {s : State} (hi : Invariant s) (r : Request) (a : AlertStatus)
    (location : Option String) :
  Invariant { s with outstanding := s.outstanding.erase r, alertStatus := a, location := location,
                     isLoading := false }
  := ⟨fun u p hmem => hi.credentials u p (List.mem_of_mem_erase hmem), nofun, hi.flagged_username,
      hi.flagged_password⟩

theorem Invariant.step {s s' : State} {e : Event} (hi : Invariant s) (h : step s e = some s') :
  Invariant s'
  := by
  cases e <;> simp only [LoginScreen.step, Option.ite_none_right_eq_some,
    Option.ite_none_left_eq_some, Option.some.injEq] at h
  case editUsername v =>
    subst h
    exact ⟨hi.credentials, hi.loading, nofun, hi.flagged_password⟩
  case editPassword v =>
    subst h
    exact ⟨hi.credentials, hi.loading, hi.flagged_username, nofun⟩
  case clickLogin => exact h.2 ▸ hi.handleSignIn
  case pressEnter => exact h ▸ hi.handleSignIn
  case loginResolved u p uri => exact h.2 ▸ hi.settle _ s.alertStatus (some uri)
  case loginRejected u p message => exact h.2 ▸ hi.settle _ _ s.location
  case closeSnackbar =>
    obtain ⟨-, rfl⟩ := h
    exact ⟨hi.credentials, hi.loading, hi.flagged_username, hi.flagged_password⟩

theorem Invariant.reachable {s : State} (h : screen.Reachable s) : Invariant s :=
  h.induction (I := Invariant) Invariant.initial fun _ _ _ hi hs => hi.step hs

/-- Every outstanding `performLogin`, Enter presses included, carries a username and a
password that pass `UsernameScheme` and `PasswordScheme`. -/
theorem logins_carry_valid_credentials (s : State) (h : screen.Reachable s) (u p : String)
    (hmem : .performLogin u p ∈ s.outstanding) :
  UsernameScheme u = true ∧ PasswordScheme p = true
  := (Invariant.reachable h).credentials u p hmem

/-- Valid credentials sent by Enter. -/
theorem logins_carry_valid_credentials_of_enter :
  ∃ s, screen.Reachable s ∧ .performLogin "admin" "secret" ∈ s.outstanding ∧
    (UsernameScheme "admin" = true ∧ PasswordScheme "secret" = true)
  := by
  have hr : screen.Reachable _ := ⟨[.editUsername "admin", .editPassword "secret", .pressEnter], rfl⟩
  exact ⟨_, hr, by decide, logins_carry_valid_credentials _ hr "admin" "secret" (by decide)⟩

/-- The spinner replaces the Login button only while a `performLogin` request is
outstanding. -/
theorem spinner_only_while_login_pending (s : State) (h : screen.Reachable s)
    (hl : s.isLoading = true) :
  0 < logins s
  := (Invariant.reachable h).loading hl

/-- A click on the Login button with valid credentials shows the spinner. -/
theorem spinner_only_while_login_pending_of_click :
  ∃ s, screen.Reachable s ∧ s.isLoading = true ∧ 0 < logins s
  := by
  have hr : screen.Reachable _ := ⟨[.editUsername "admin", .editPassword "secret", .clickLogin], rfl⟩
  exact ⟨_, hr, rfl, spinner_only_while_login_pending _ hr rfl⟩

/-- A field is marked as an error only while its value fails its scheme. -/
theorem flagged_fields_invalid (s : State) (h : screen.Reachable s) :
  (s.validationErrors.username = true → UsernameScheme s.username = false) ∧
    (s.validationErrors.password = true → PasswordScheme s.password = false)
  := ⟨(Invariant.reachable h).flagged_username, (Invariant.reachable h).flagged_password⟩

/-- A click on the Login button with a two-letter username flags the username. -/
theorem flagged_fields_invalid_of_short_username :
  ∃ s, screen.Reachable s ∧ s.validationErrors.username = true ∧
    ((s.validationErrors.username = true → UsernameScheme s.username = false) ∧
      (s.validationErrors.password = true → PasswordScheme s.password = false))
  := by
  have hr : screen.Reachable _ := ⟨[.editUsername "al", .editPassword "secret", .clickLogin], rfl⟩
  exact ⟨_, hr, rfl, flagged_fields_invalid _ hr⟩

end CyoloLogin.LoginScreen
