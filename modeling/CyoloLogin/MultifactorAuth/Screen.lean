import CyoloLogin.Run
import CyoloLogin.Services.AuthAPI
import CyoloLogin.Hooks.UserData

/-!
# The multifactor verification screen

`MultifactorAuthScreen` as a `Machine` over its `State`: the screen's React state, the
session poller, the requests still outstanding, the pending timers, and the log of the
requests the handlers issued.

The screen renders a spinner while `isLoading` holds.  An effect with no dependency
list runs after every render and arms a timer that clears `isLoading` `2000` ms later;
`isLoading` starts set, and the first render arms the first timer.  React renders again
after every state update that changes a value, and an update made outside an event
handler (in a promise continuation, a timer) renders on its own, so each setter below
renders, and so arms a timer, when it changes the state.  A failed SMS send arms a timer
that sets the mode back to TTOP `1500` ms later; nothing cancels it.

A render writes only `mounted` and the loading timers (`rerender_eq`), and each handler
has one spec lemma beside it: `handleModeChange_eq` and `handleCodeCompletion_eq` give
it in terms of the setters, `loadUserData_eq`, `setUserData_writes` and `settle_writes`
say which fields it writes.  `step_cases` says once what each event does and under which
guard.
-/

namespace CyoloLogin.MultifactorAuthScreen

/-- `MfaModes`: verification by an SMS link, or by a time-based code. -/
inductive MfaModes where
  | SMS
  | TTOP
  deriving DecidableEq, Repr

/-- The state of a mounted `MultifactorAuthScreen` at time `now`.  `entryPending` holds
until the entry effect's `getUserData` call settles, `loadingTimeouts` and
`revertTimeouts` are the deadlines of the pending timers of the loading effect and of
`initiateSmsSending`, and `issued` every request a handler issued, with its time. -/
structure State where
  now : Nat
  mounted : Bool
  poller : Poller
  isLoading : Bool
  mfaMode : MfaModes
  alertStatus : AlertStatus
  entryPending : Bool
  outstanding : List Request
  loadingTimeouts : List Nat
  revertTimeouts : List Nat
  issued : List (Nat × Request)
  deriving DecidableEq, Repr

/-- The first render, at time `0`, and the timer its effect arms. -/
def initial : State where
  now := 0
  mounted := true
  poller := Poller.initial 0
  isLoading := true
  mfaMode := .TTOP
  alertStatus := .initial
  entryPending := true
  outstanding := []
  loadingTimeouts := [2000]
  revertTimeouts := []
  issued := []

/-! ### What a render computes -/

/-- `validMfaModes`: TTOP for a TOTP enrollment without a supervisor, SMS for a phone
number or a supervisor. -/
def validMfaModes (userData : Option IUser) : List MfaModes :=
  (match userData with
    | some u => if u.totpEnrolled && u.supervisor == "" then [.TTOP] else []
    | none => []) ++
  (match userData with
    | some u => if u.phoneNumber != "" || u.supervisor != "" then [.SMS] else []
    | none => [])

/-- Whether the render shows a link that calls `handleModeChange`: the SMS link in the
TTOP view, the token link in the SMS view. -/
def showsModeLink (s : State) : Bool :=
  !s.isLoading &&
    match s.mfaMode with
    | .TTOP => (validMfaModes s.poller.userData).contains .SMS
    | .SMS => (validMfaModes s.poller.userData).contains .TTOP

/-- Whether the render shows the `InputCodeField` of the TTOP view. -/
def showsCodeField (s : State) : Bool :=
  !s.isLoading && s.mfaMode == .TTOP && (validMfaModes s.poller.userData).contains .TTOP

/-- The redirects of the render body, to `redirect` for a verified user and to `/`
without a snapshot unless anonymous access is allowed; either unmounts the screen. -/
def redirect (s : State) : State :=
  match s.poller.userData with
  | some u => if u.name ≠ "anonymous" ∧ u.authLevel > 1 then { s with mounted := false } else s
  | none => if config.allowAnonymousPageAccess then s else { s with mounted := false }

/-- A render of the screen: the body's redirects, then the effect arms a timer that
clears `isLoading` `2000` ms later. -/
def rerender (s : State) : State :=
  { redirect s with loadingTimeouts := s.loadingTimeouts ++ [s.now + 2000] }

/-- `setIsLoading`: renders when the value changes. -/
def setIsLoading (b : Bool) (s : State) : State :=
  if s.isLoading = b then s else rerender { s with isLoading := b }

/-- `setMfaMode`: renders when the value changes. -/
def setMfaMode (m : MfaModes) (s : State) : State :=
  if s.mfaMode = m then s else rerender { s with mfaMode := m }

/-- `setAlertStatus`: a new object, so it always renders. -/
def setAlertStatus (a : AlertStatus) (s : State) : State :=
  rerender { s with alertStatus := a }

/-! A render writes only `mounted` and `loadingTimeouts`, and a setter its own field
besides. -/

/-- Whether the render body pushes a route: `redirect` for a user other than `anonymous`
with `auth_level > 1`, `/` for no snapshot unless anonymous access is allowed. -/
def redirects : Option IUser → Bool
  | some u => decide (u.name ≠ "anonymous" ∧ u.authLevel > 1)
  | none => !config.allowAnonymousPageAccess

/-- The render body writes only `mounted`: a redirect leaves the screen. -/
theorem redirect_eq (s : State) :
  redirect s = { s with mounted := s.mounted && !redirects s.poller.userData }
  := by
  unfold redirect redirects
  split
  · rename_i u _
    by_cases h : u.name ≠ "anonymous" ∧ u.authLevel > 1
    · rw [if_pos h, decide_eq_true h]
      simp
    · rw [if_neg h, decide_eq_false h]
      simp
  · split <;> simp_all

/-- A render writes `mounted` and arms a loading timer due `2000` ms later. -/
@[simp]
theorem rerender_eq (s : State) :
  rerender s =
    { s with mounted := s.mounted && !redirects s.poller.userData,
             loadingTimeouts := s.loadingTimeouts ++ [s.now + 2000] }
  := by
  rw [rerender, redirect_eq]

@[simp]
theorem setIsLoading_frame (b : Bool) (s : State) :
  (setIsLoading b s).now = s.now ∧ (setIsLoading b s).poller = s.poller ∧
    (setIsLoading b s).isLoading = b ∧ (setIsLoading b s).mfaMode = s.mfaMode ∧
    (setIsLoading b s).outstanding = s.outstanding ∧
    (setIsLoading b s).revertTimeouts = s.revertTimeouts ∧ (setIsLoading b s).issued = s.issued
  := by
  unfold setIsLoading
  split <;> simp_all

@[simp]
theorem setMfaMode_frame (m : MfaModes) (s : State) :
  (setMfaMode m s).now = s.now ∧ (setMfaMode m s).poller = s.poller ∧
    (setMfaMode m s).isLoading = s.isLoading ∧ (setMfaMode m s).mfaMode = m ∧
    (setMfaMode m s).outstanding = s.outstanding ∧
    (setMfaMode m s).revertTimeouts = s.revertTimeouts ∧ (setMfaMode m s).issued = s.issued
  := by
  unfold setMfaMode
  split <;> simp_all

/-! ### Handlers -/

/-- Calling a function of `AuthAPI.ts`: its request is issued now and is outstanding. -/
def issue (r : Request) (s : State) : State :=
  { s with outstanding := s.outstanding ++ [r], issued := s.issued ++ [(s.now, r)] }

/-- `initiateSmsSending()`, up to its `await`. -/
def initiateSmsSending (s : State) : State :=
  if config.mock then setAlertStatus (.raise .info "an sms message was sent") s
  else issue .initiateMfaSmsMessage s

/-- The rest of `initiateSmsSending`, once its request settles: on failure it arms the
timer that sets the mode back to TTOP. -/
def initiateSmsSendingSettled : Outcome → State → State
  | .resolved, s => setAlertStatus (.raise .info "an sms message was sent") s
  | .rejected _, s =>
    let s := setAlertStatus (.raise .error "failed to send sms message") s
    { s with revertTimeouts := s.revertTimeouts ++ [s.now + 1500] }

/-- `handleModeChange`: inverts the mode, and sends an SMS when the new mode is SMS. -/
def handleModeChange (s : State) : State :=
  let newMode := if s.mfaMode = .TTOP then MfaModes.SMS else .TTOP
  let s := setMfaMode newMode s
  if newMode = .SMS then initiateSmsSending s else s

/-- Outside mock mode, a switch from TTOP sets SMS and sends the SMS; a switch from SMS
only sets TTOP. -/
theorem handleModeChange_eq (s : State) :
  handleModeChange s =
    match s.mfaMode with
    | .TTOP => issue .initiateMfaSmsMessage (setMfaMode .SMS s)
    | .SMS => setMfaMode .TTOP s
  := by
  unfold handleModeChange initiateSmsSending
  cases s.mfaMode <;> rfl

/-- `handleCodeCompletion(code)` of the latest render, up to its `await`: a user with a
supervisor is told to use SMS, anyone else has the code confirmed. -/
def handleCodeCompletion (code : String) (s : State) : State :=
  if config.mock then
    setAlertStatus (.raise .success "code verified successfully") s
  else if (s.poller.userData.map fun u => u.supervisor != "") = some true then
    setAlertStatus (.raise .info "users with a supervisor set, must connect with sms") s
  else
    issue (.performTotpConfirmation code) (setIsLoading true s)

/-- Outside mock mode, a user with a supervisor is told to use SMS, and anyone else has
the code confirmed with the spinner shown. -/
theorem handleCodeCompletion_eq (code : String) (s : State) :
  handleCodeCompletion code s =
    if (s.poller.userData.map fun u => u.supervisor != "") = some true then
      setAlertStatus (.raise .info "users with a supervisor set, must connect with sms") s
    else issue (.performTotpConfirmation code) (setIsLoading true s)
  := by
  unfold handleCodeCompletion
  rw [if_neg (by decide)]

/-- The rest of `handleCodeCompletion`, once its request settles. -/
def handleCodeCompletionSettled : Outcome → State → State
  | .resolved, s => setIsLoading false (setAlertStatus (.raise .success "code verified successfully") s)
  | .rejected _, s => setIsLoading false (setAlertStatus (.raise .error "failed to verify code") s)

/-- The continuation of a request issued by a handler. -/
def settle : Request → Outcome → State → State
  | .initiateMfaSmsMessage, o, s => initiateSmsSendingSettled o s
  | .performTotpConfirmation _, o, s => handleCodeCompletionSettled o s
  | _, _, s => s

/-- The entry effect's continuation: a user who is not enrolled, or no user, is sent
to `/`. -/
def loadUserData (v : Option IUser) (s : State) : State :=
  match v with
  | some u => if u.enrolled then s else { s with mounted := false }
  | none => { s with mounted := false }

/-- The entry continuation writes only `mounted`: it leaves unless the session is
enrolled. -/
theorem loadUserData_eq (v : Option IUser) (s : State) :
  loadUserData v s = { s with mounted := s.mounted && v.any IUser.enrolled }
  := by
  unfold loadUserData
  split
  · split <;> simp_all
  · simp

/-- `setUserData` of the poller: a snapshot is a new object and renders; `undefined`
renders only when it replaces a snapshot. -/
def setUserData (p : Poller) (s : State) : State :=
  if p.userData = none ∧ s.poller.userData = none then { s with poller := p }
  else rerender { s with poller := p }

/-- `setUserData` writes the poller, and renders or not. -/
theorem setUserData_writes (p : Poller) (s : State) :
  setUserData p s =
    let s' := setUserData p s
    { s with poller := p, mounted := s'.mounted, loadingTimeouts := s'.loadingTimeouts }
  := by
  unfold setUserData
  split <;> simp

/-- The continuation of a request writes neither the requests nor the mode. -/
theorem settle_writes (r : Request) (o : Outcome) (s : State) :
  settle r o s =
    let s' := settle r o s
    { s with mounted := s'.mounted, isLoading := s'.isLoading, alertStatus := s'.alertStatus,
             loadingTimeouts := s'.loadingTimeouts, revertTimeouts := s'.revertTimeouts }
  := by
  cases r <;> cases o <;>
    simp [settle, initiateSmsSendingSettled, handleCodeCompletionSettled, setAlertStatus,
      setIsLoading] <;>
    split <;> simp_all

/-! ### Events -/

/-- The events the browser delivers to the screen. -/
inductive Event where
  | elapse (ms : Nat)
  | poll (e : Poller.Event)
  | entryResolved (userData : Option IUser)
  | entryRejected
  | settled (r : Request) (o : Outcome)
  | loadingTimeout
  | revertTimeout
  | clickModeLink
  | completeCode (code : String)
  | closeSnackbar
  deriving DecidableEq, Repr

/-- The first of a list of timers, once due. -/
def fire (timers : List Nat) (now : Nat) : Option (List Nat) :=
  match timers with
  | d :: rest => if d ≤ now then some rest else none
  | [] => none

theorem fire_eq_some {timers rest : List Nat} {now : Nat} :
  fire timers now = some rest ↔ ∃ d, timers = d :: rest ∧ d ≤ now
  := by
  cases timers <;> simp [fire, and_assoc, and_comm]

/-- The screen's reaction to an event while mounted. -/
def deliver (s : State) : Event → Option State
  | .elapse ms => some { s with now := s.now + ms }
  | .poll e =>
    (s.poller.step s.now e).map fun p =>
      match e with
      | .resolved _ _ => setUserData p s
      | _ => { s with poller := p }
  | .entryResolved v =>
    if s.entryPending then some (loadUserData v { s with entryPending := false }) else none
  | .entryRejected => if s.entryPending then some { s with entryPending := false } else none
  | .settled r o =>
    if r ∈ s.outstanding then some (settle r o { s with outstanding := s.outstanding.erase r })
    else none
  | .loadingTimeout =>
    (fire s.loadingTimeouts s.now).map fun rest => setIsLoading false { s with loadingTimeouts := rest }
  | .revertTimeout =>
    (fire s.revertTimeouts s.now).map fun rest => setMfaMode .TTOP { s with revertTimeouts := rest }
  | .clickModeLink => if showsModeLink s then some (handleModeChange s) else none
  | .completeCode code => if showsCodeField s then some (handleCodeCompletion code s) else none
  | .closeSnackbar =>
    if s.alertStatus.show then some (setAlertStatus .closed s) else none

/-- A screen that has navigated away receives no event. -/
def step (s : State) (e : Event) : Option State :=
  if s.mounted then deliver s e else none

/-- `MultifactorAuthScreen`, mounted at time `0`. -/
def screen : Machine State Event := ⟨initial, step⟩

/-! ### What a step can do -/

/-- A step of the screen, by its event: what the event does, under the guard that lets it
through.  A snapshot renders through `setUserData`; the other events of the poller only
move it. -/
theorem step_cases {motive : Event → State → Prop} {s s' : State} {e : Event} (h : step s e = some s')
    (elapse : ∀ ms, motive (.elapse ms) { s with now := s.now + ms })
    (pollTick : ∀ p, s.poller.step s.now .tick = some p → motive (.poll .tick) { s with poller := p })
    (pollResolved : ∀ k v p, s.poller.step s.now (.resolved k v) = some p →
      motive (.poll (.resolved k v)) (setUserData p s))
    (pollRejected : ∀ k p, s.poller.step s.now (.rejected k) = some p →
      motive (.poll (.rejected k)) { s with poller := p })
    (entryResolved : ∀ v, s.entryPending = true →
      motive (.entryResolved v) (loadUserData v { s with entryPending := false }))
    (entryRejected : s.entryPending = true → motive .entryRejected { s with entryPending := false })
    (settled : ∀ r o, r ∈ s.outstanding →
      motive (.settled r o) (settle r o { s with outstanding := s.outstanding.erase r }))
    (loadingTimeout : ∀ d rest, s.loadingTimeouts = d :: rest → d ≤ s.now →
      motive .loadingTimeout (setIsLoading false { s with loadingTimeouts := rest }))
    (revertTimeout : ∀ d rest, s.revertTimeouts = d :: rest → d ≤ s.now →
      motive .revertTimeout (setMfaMode .TTOP { s with revertTimeouts := rest }))
    (clickModeLink : showsModeLink s = true → motive .clickModeLink (handleModeChange s))
    (completeCode : ∀ code, showsCodeField s = true →
      motive (.completeCode code) (handleCodeCompletion code s))
    (closeSnackbar : s.alertStatus.show = true → motive .closeSnackbar (setAlertStatus .closed s)) :
  motive e s'
  := by
  unfold step at h
  split at h
  case isFalse => cases h
  cases e <;> simp only [deliver, Option.ite_none_right_eq_some, Option.some.injEq,
    Option.map_eq_some'] at h
  case elapse ms => exact h ▸ elapse ms
  case poll pe =>
    obtain ⟨p, hp, rfl⟩ := h
    cases pe with
    | tick => exact pollTick p hp
    | resolved k v => exact pollResolved k v p hp
    | rejected k => exact pollRejected k p hp
  case entryResolved v => exact h.2 ▸ entryResolved v h.1
  case entryRejected => exact h.2 ▸ entryRejected h.1
  case settled r o => exact h.2 ▸ settled r o h.1
  case loadingTimeout =>
    obtain ⟨rest, hfire, rfl⟩ := h
    obtain ⟨d, hd, hdue⟩ := fire_eq_some.mp hfire
    exact loadingTimeout d rest hd hdue
  case revertTimeout =>
    obtain ⟨rest, hfire, rfl⟩ := h
    obtain ⟨d, hd, hdue⟩ := fire_eq_some.mp hfire
    exact revertTimeout d rest hd hdue
  case clickModeLink => exact h.2 ▸ clickModeLink h.1
  case completeCode code => exact h.2 ▸ completeCode code h.1
  case closeSnackbar => exact h.2 ▸ closeSnackbar h.1

end CyoloLogin.MultifactorAuthScreen
