import CyoloLogin.Run
import CyoloLogin.Services.AuthAPI
import CyoloLogin.Hooks.UserData

/-!
# The enrollment wizard screen

`EnrollmentWizardScreen` as a `Machine` over its `State`: the screen's React state, the
session poller of `useUserData`, the requests still outstanding, the pending throttle
timers of `handlePhoneSubmission`, and the log of the requests the handlers issued.

A handler invoked by a user event runs in the closure of the latest render, so it reads
the current state.  An asynchronous continuation runs in the closure of the render that
started it: the entry effect's `getUserData` continuation, `loadUserData`, reads the
first render, `initial`, and calls that render's `handleSkip`.  A functional update
(`setActiveStep(prev => prev + 1)`) reads the current state wherever it runs.  Each event
runs to completion, with the re-render it causes and its effects, before the next one;
`Mousetrap`'s Enter binding is installed again after every render, so `pressEnter` calls
the latest `handleNext`.  `Mousetrap.bind` ignores a key pressed in a text field, unless a
`bindGlobal` of Enter, such as the login screen's, ran earlier in the page; so an Enter
typed in the computer-name or phone field may call nothing.  The model does not track
focus: `pressEnter` is an Enter press with the focus outside the fields, which the user
can make on every render.  `PhoneNumberScheme` comes from `joi-phone-number` and is a
parameter, `phoneNumberScheme`.

Each handler has one spec lemma beside it that says which fields it writes, and with
which values where an invariant reads them: `render_eq`, `handleSkip_eq`, `handleNext_eq`
(with the requests of `nextRequests`), `handleCodeSubmit_eq`,
`handlePhoneSubmission_writes`, `settle_eq`, `loadUserData_eq` and `loadUserData_writes`.
`step_cases` says once what each event does and under which guard.  The invariants of the
other modules are proved from these, one case per event, and read the frame of each
handler off its spec lemma.
-/

namespace CyoloLogin.EnrollmentWizardScreen

/-- `getSteps()`: the labels of the wizard's steps. -/
def getSteps : List String := ["Computer name setup", "MFA Setup"]

/-- The icon shown over the MFA setup view. -/
inductive AvatarState where
  | NotVisible
  | Error
  | Success
  deriving DecidableEq, Repr

/-- The two ways to enroll a second factor. -/
inductive EnrollmentTypes where
  | SMS
  | QR
  deriving DecidableEq, Repr

/-- The state of a mounted `EnrollmentWizardScreen` at time `now`; `mounted` turns false
when the screen navigates away.  `entryPending` holds until the entry effect's
`getUserData` call settles, `outstanding` lists the requests of the handlers that have
not settled, `phoneTimeouts` the deadlines of the throttle timers, and `issued` every
request a handler issued, with its time. -/
structure State where
  now : Nat
  mounted : Bool
  poller : Poller
  alertStatus : AlertStatus
  canFinish : Bool
  phoneNumber : String
  avatarState : AvatarState
  computerName : String
  isInPhoneSubmissionTimeout : Bool
  isLoading : Bool
  activeStep : Int
  skipped : List Int
  enrollmentMode : EnrollmentTypes
  entryPending : Bool
  outstanding : List Request
  phoneTimeouts : List Nat
  issued : List (Nat × Request)
  deriving DecidableEq, Repr

/-- The first render, at time `0`: the entry effect's `getUserData` call is outstanding
and the poller is set. -/
def initial : State where
  now := 0
  mounted := true
  poller := Poller.initial 0
  alertStatus := .initial
  canFinish := false
  phoneNumber := ""
  avatarState := .NotVisible
  computerName := ""
  isInPhoneSubmissionTimeout := false
  isLoading := false
  activeStep := 0
  skipped := []
  enrollmentMode := .QR
  entryPending := true
  outstanding := []
  phoneTimeouts := []
  issued := []

/-! ### What a render computes -/

/-- The factors the render takes as enrolled: `{ sms: true, totp: false }` until a
snapshot is loaded. -/
structure EnrollmentStatus where
  sms : Bool
  totp : Bool
  deriving DecidableEq, Repr

/-- `enrollmentStatus` of a render whose `userData` is the given snapshot. -/
def enrollmentStatus : Option IUser → EnrollmentStatus
  | none => ⟨true, false⟩
  | some u => ⟨u.phoneNumber != "", u.totpEnrolled⟩

/-- `Object.values(enrollmentStatus).some(val => val)`. -/
def isEnrolledInSomething (s : State) : Bool :=
  (enrollmentStatus s.poller.userData).sms || (enrollmentStatus s.poller.userData).totp

/-- `canPressNext`: whether the Next (on the last step, Finish) button is rendered. -/
def canPressNext (s : State) : Bool :=
  (s.activeStep == (getSteps.length : Int) - 1 && isEnrolledInSomething s && s.canFinish) ||
    (s.activeStep == 0 && s.computerName.length != 0)

/-- `isStepOptional`: only step `0` may be skipped. -/
def isStepOptional (step : Int) : Bool := step == 0

/-- `isStepSkipped`. -/
def isStepSkipped (step : Int) (s : State) : Bool := s.skipped.contains step

/-- Whether the render shows a step and its buttons, rather than the completed view. -/
def showsSteps (s : State) : Bool := s.activeStep != (getSteps.length : Int)

/-- Whether `MfaSetupView` is rendered: step `1`, not loading. -/
def showsMfaSetupView (s : State) : Bool :=
  showsSteps s && s.activeStep == 1 && !s.isLoading

/-- Whether `renderMfaTypesContentView` renders `PhoneEnrollView`. -/
def showsPhoneEnrollView (s : State) : Bool :=
  showsMfaSetupView s && s.enrollmentMode == .SMS && !(enrollmentStatus s.poller.userData).sms

/-- Whether `renderMfaChangeModeButtonView` renders the change-mode button. -/
def showsMfaChangeModeButton (s : State) : Bool :=
  showsMfaSetupView s &&
    !(s.enrollmentMode == .SMS && (enrollmentStatus s.poller.userData).totp) &&
    !(s.enrollmentMode == .QR && (enrollmentStatus s.poller.userData).sms)

/-- `isEnrolled` of `MfaSetupView`: the factor of the current mode is enrolled. -/
def isEnrolled (s : State) : Bool :=
  match s.enrollmentMode with
  | .QR => (enrollmentStatus s.poller.userData).totp
  | .SMS => (enrollmentStatus s.poller.userData).sms

/-- Whether `MfaSetupView` renders the `InputCodeField`. -/
def showsCodeField (s : State) : Bool := showsMfaSetupView s && !isEnrolled s

/-- The redirects of the render: to `redirect` once the snapshot says `enrolled`, and
to `/` without a snapshot unless anonymous access is allowed.  Either unmounts the
screen. -/
def render (s : State) : State :=
  match s.poller.userData with
  | some u => if u.enrolled then { s with mounted := false } else s
  | none => if config.allowAnonymousPageAccess then s else { s with mounted := false }

/-- Whether the render body pushes a route: `redirect` for an enrolled user, `/` for no
snapshot unless anonymous access is allowed. -/
def redirects : Option IUser → Bool
  | some u => u.enrolled
  | none => !config.allowAnonymousPageAccess

/-- A render writes only `mounted`: a redirect leaves the screen. -/
theorem render_eq (s : State) :
  render s = { s with mounted := s.mounted && !redirects s.poller.userData }
  := by
  unfold render redirects
  split <;> split <;> simp_all

/-! ### Handlers -/

/-- Calling a function of `AuthAPI.ts`: its request is issued now and is outstanding. -/
def issue (r : Request) (s : State) : State :=
  { s with outstanding := s.outstanding ++ [r], issued := s.issued ++ [(s.now, r)] }

/-- The state after a handler that may throw: the exception escapes before any update. -/
def escape (s : State) : Except String State → State
  | .ok s' => s'
  | .error _ => s

/-- `handleSkip` of a render whose `activeStep` is `step`: the guard reads `step`, the
step counter is advanced from its current value, and `step` is added to `skipped`. -/
def handleSkip (step : Int) (s : State) : Except String State :=
  if isStepOptional step then
    .ok { s with activeStep := s.activeStep + 1, skipped := s.skipped.insert step }
  else
    .error "You can't skip a step that isn't optional."

/-- `handleSkip` of an optional step advances the counter and records the step. -/
theorem handleSkip_eq {step : Int} (h : isStepOptional step = true) (s : State) :
  escape s (handleSkip step s) =
    { s with activeStep := s.activeStep + 1, skipped := s.skipped.insert step }
  := by
  simp [handleSkip, h, escape]

/-- `updateComputerName()`: issues the `PUT` of the current `computerName`. -/
def updateComputerName (s : State) : State := issue (.updateComputerName s.computerName) s

/-- `askServerToSaveUserToDB()`: issues the commit of the enrollment. -/
def askServerToSaveUserToDB (s : State) : State := issue .saveUserToDB s

/-- The `newSkipped` of `handleNext`: `skipped` without the current step. -/
def newSkipped (s : State) : List Int :=
  if isStepSkipped s.activeStep s then s.skipped.erase s.activeStep else s.skipped

/-- `handleNext` of the latest render.  On step `0` without a computer name it skips
the step; on step `1` it stops unless a factor is enrolled.  Neither request it issues
is awaited. -/
def handleNext (s : State) : Except String State :=
  if s.activeStep = 0 ∧ s.computerName = "" then
    handleSkip s.activeStep s
  else if s.activeStep = 1 ∧ isEnrolledInSomething s = false then
    .ok s
  else
    let s' :=
      if s.activeStep = 0 then updateComputerName s
      else if s.activeStep = 1 then askServerToSaveUserToDB s
      else s
    .ok { s' with activeStep := s.activeStep + 1, skipped := newSkipped s }

/-- The requests `handleNext` sends: the update of a non-empty name from step `0`, the
commit from step `1` when a factor is enrolled. -/
def nextRequests (s : State) : List Request :=
  if s.activeStep = 0 ∧ s.computerName ≠ "" then [.updateComputerName s.computerName]
  else if s.activeStep = 1 ∧ isEnrolledInSomething s = true then [.saveUserToDB]
  else []

/-- `handleNext` sends only the update of the computer name or the commit. -/
theorem mem_nextRequests {s : State} {r : Request} (h : r ∈ nextRequests s) :
  r = .updateComputerName s.computerName ∨ r = .saveUserToDB
  := by
  unfold nextRequests at h
  split_ifs at h <;> simp_all

/-- `handleNext` writes the counter, `skipped` and the requests of `nextRequests`: it
skips step `0` without a computer name, stays on step `1` without a factor, and
otherwise advances. -/
theorem handleNext_eq (s : State) :
  escape s (handleNext s) =
    { s with
      activeStep :=
        if s.activeStep = 1 ∧ isEnrolledInSomething s = false then s.activeStep else s.activeStep + 1,
      skipped :=
        if s.activeStep = 0 ∧ s.computerName = "" then s.skipped.insert 0
        else if s.activeStep = 1 ∧ isEnrolledInSomething s = false then s.skipped
        else newSkipped s,
      outstanding := s.outstanding ++ nextRequests s,
      issued := s.issued ++ (nextRequests s).map (Prod.mk s.now) }
  := by
  unfold handleNext nextRequests
  by_cases h₀ : s.activeStep = 0
  · by_cases hn : s.computerName = ""
    · simp [h₀, hn, handleSkip, isStepOptional, escape]
    · simp [h₀, hn, escape, updateComputerName, issue]
  · by_cases h₁ : s.activeStep = 1
    · cases he : isEnrolledInSomething s
      · cases s
        simp_all [escape]
      · simp [h₁, he, escape, askServerToSaveUserToDB, issue]
    · simp [h₀, h₁, escape]

/-- `handleBack`. -/
def handleBack (s : State) : State := { s with activeStep := s.activeStep - 1 }

/-- `handleEnrollmentModeChange`. -/
def handleEnrollmentModeChange (s : State) : State :=
  { s with enrollmentMode := if s.enrollmentMode = .QR then .SMS else .QR }

/-- `handleCodeSubmit(code)`, up to its `await`.  In mock mode it only reports success:
the flag it sets on `enrollmentStatus` belongs to the render and is lost at the next. -/
def handleCodeSubmit (code : String) (s : State) : State :=
  if config.mock then
    { s with avatarState := .Success, alertStatus := .raise .success "successfully verified code" }
  else
    match s.enrollmentMode with
    | .SMS => issue (.performEnrollWithSMS code) { s with isLoading := true }
    | .QR => issue (.performEnrollWithTOTP code) { s with isLoading := true }

/-- The enrollment request `handleCodeSubmit` sends in a mode. -/
def enrollRequest : EnrollmentTypes → String → Request
  | .SMS, code => .performEnrollWithSMS code
  | .QR, code => .performEnrollWithTOTP code

/-- Outside mock mode, `handleCodeSubmit` sets `isLoading` and sends the enrollment of the
current mode. -/
theorem handleCodeSubmit_eq (code : String) (s : State) :
  handleCodeSubmit code s = issue (enrollRequest s.enrollmentMode code) { s with isLoading := true }
  := by
  unfold handleCodeSubmit
  rw [if_neg (by decide)]
  cases s.enrollmentMode <;> rfl

/-- The rest of `handleCodeSubmit`, once its request settles. -/
def handleCodeSubmitSettled : Outcome → State → State
  | .resolved, s => { s with avatarState := .Success, isLoading := false }
  | .rejected _, s =>
    { s with avatarState := .Error, alertStatus := .raise .error "failed to validate code",
             isLoading := false }

/-- `handlePhoneSubmission(phoneNumber)`, up to its `await`: the throttle is set, its
timer is due `3000` ms later, and the SMS request is issued. -/
def handlePhoneSubmission (phoneNumberScheme : String → Bool) (phoneNumber : String)
    (s : State) : State :=
  if phoneNumberScheme phoneNumber then
    issue (.initiateSmsMessage phoneNumber)
      { s with isInPhoneSubmissionTimeout := true, phoneTimeouts := s.phoneTimeouts ++ [s.now + 3000] }
  else
    { s with alertStatus := .raise .error "The phone number field is invalid" }

/-- `handlePhoneSubmission` writes only the alert, the throttle and the requests. -/
theorem handlePhoneSubmission_writes (phoneNumberScheme : String → Bool) (phoneNumber : String)
    (s : State) :
  handlePhoneSubmission phoneNumberScheme phoneNumber s =
    let s' := handlePhoneSubmission phoneNumberScheme phoneNumber s
    { s with alertStatus := s'.alertStatus, isInPhoneSubmissionTimeout := s'.isInPhoneSubmissionTimeout,
             phoneTimeouts := s'.phoneTimeouts, outstanding := s'.outstanding, issued := s'.issued }
  := by
  unfold handlePhoneSubmission
  split <;> rfl

/-- The rest of `handlePhoneSubmission`, once its request settles. -/
def handlePhoneSubmissionSettled : Outcome → State → State
  | .resolved, s => { s with alertStatus := .raise .info "An sms has been sent to you" }
  | .rejected message, s => { s with alertStatus := .raise .error message }

/-- The rest of `updateComputerName`, once its request settles. -/
def updateComputerNameSettled : Outcome → State → State
  | .resolved, s => { s with alertStatus := .raise .success "Computer name was updated" }
  | .rejected _, s => { s with alertStatus := .raise .error "failed to update computer name" }

/-- The continuation of a request issued by a handler. -/
def settle : Request → Outcome → State → State
  | .updateComputerName _, o, s => updateComputerNameSettled o s
  | .performEnrollWithSMS _, o, s => handleCodeSubmitSettled o s
  | .performEnrollWithTOTP _, o, s => handleCodeSubmitSettled o s
  | .initiateSmsMessage _, o, s => handlePhoneSubmissionSettled o s
  | _, _, s => s

/-- The continuation of a request writes only the alert and the avatar, and clears
`isLoading` after an enrollment. -/
theorem settle_eq (r : Request) (o : Outcome) (s : State) :
  settle r o s =
    { s with alertStatus := (settle r o s).alertStatus, avatarState := (settle r o s).avatarState,
             isLoading := if r.isEnrollment then false else s.isLoading }
  := by
  cases r <;> cases o <;> rfl

/-- The entry effect's continuation once `getUserData` resolves with `v`.  It runs in
the closure of the first render: the `phoneNumber` it tests is `initial.phoneNumber`,
and the `handleSkip` it calls is the one of `initial.activeStep`.  `history.push('/')`
unmounts the screen, and the `finally` clause sets `canFinish`. -/
def loadUserData (v : Option IUser) (s : State) : State :=
  let s :=
    match v with
    | some u =>
      let s := if initial.phoneNumber ≠ "" then { s with phoneNumber := u.phoneNumber } else s
      if u.personalDesktop ≠ "" then
        let s := { s with computerName := u.personalDesktop }
        if initial.activeStep = 0 then escape s (handleSkip initial.activeStep s) else s
      else s
    | none => { s with mounted := false }
  { s with canFinish := true }

/-- `loadUserData` by its snapshot: with a computer name it fills the field and skips a
step whatever the current one; without a snapshot it leaves the screen. -/
theorem loadUserData_eq (v : Option IUser) (s : State) :
  loadUserData v s =
    match v with
    | some u =>
      if u.personalDesktop ≠ "" then
        { s with computerName := u.personalDesktop, activeStep := s.activeStep + 1,
                 skipped := s.skipped.insert 0, canFinish := true }
      else { s with canFinish := true }
    | none => { s with mounted := false, canFinish := true }
  := by
  unfold loadUserData
  cases v with
  | none => rfl
  | some u =>
    simp only [initial, ne_eq, not_true_eq_false, if_false, if_true]
    split <;> rfl

/-- The entry continuation writes only `mounted`, the computer name and the counter, and
sets `canFinish`. -/
theorem loadUserData_writes (v : Option IUser) (s : State) :
  loadUserData v s =
    let s' := loadUserData v s
    { s with mounted := s'.mounted, computerName := s'.computerName, activeStep := s'.activeStep,
             skipped := s'.skipped, canFinish := true }
  := by
  rw [loadUserData_eq]
  split
  · split <;> rfl
  · rfl

/-! ### Events -/

/-- The events the browser delivers to the screen. -/
inductive Event where
  | elapse (ms : Nat)
  | poll (e : Poller.Event)
  | entryResolved (userData : Option IUser)
  | entryRejected
  | settled (r : Request) (o : Outcome)
  | phoneTimeout
  | clickNext
  | clickBack
  | clickSkip
  | pressEnter
  | editComputerName (value : String)
  | editPhoneNumber (value : String)
  | clickPhoneSubmit
  | clickChangeMode
  | completeCode (code : String)
  | closeSnackbar
  deriving DecidableEq, Repr

/-- The screen's reaction to an event while mounted.  A click needs its button rendered
(and enabled), an edit its field, a timer its deadline, a settlement its request. -/
def deliver (phoneNumberScheme : String → Bool) (s : State) : Event → Option State
  | .elapse ms => some { s with now := s.now + ms }
  | .poll e => (s.poller.step s.now e).map fun p => render { s with poller := p }
  | .entryResolved v =>
    if s.entryPending then some (loadUserData v { s with entryPending := false }) else none
  | .entryRejected =>
    if s.entryPending then some { s with entryPending := false, canFinish := true } else none
  | .settled r o =>
    if r ∈ s.outstanding then some (settle r o { s with outstanding := s.outstanding.erase r })
    else none
  | .phoneTimeout =>
    match s.phoneTimeouts with
    | d :: rest =>
      if d ≤ s.now then
        some { s with phoneTimeouts := rest, isInPhoneSubmissionTimeout := false }
      else none
    | [] => none
  | .clickNext => if showsSteps s && canPressNext s then some (escape s (handleNext s)) else none
  | .clickBack => if showsSteps s && s.activeStep != 0 then some (handleBack s) else none
  | .clickSkip =>
    if showsSteps s && isStepOptional s.activeStep then
      some (escape s (handleSkip s.activeStep s))
    else none
  | .pressEnter => some (escape s (handleNext s))
  | .editComputerName v =>
    if showsSteps s && s.activeStep == 0 then some { s with computerName := v } else none
  | .editPhoneNumber v => if showsPhoneEnrollView s then some { s with phoneNumber := v } else none
  | .clickPhoneSubmit =>
    if showsPhoneEnrollView s && !s.isInPhoneSubmissionTimeout then
      some (handlePhoneSubmission phoneNumberScheme s.phoneNumber s)
    else none
  | .clickChangeMode =>
    if showsMfaChangeModeButton s then some (handleEnrollmentModeChange s) else none
  | .completeCode code => if showsCodeField s then some (handleCodeSubmit code s) else none
  | .closeSnackbar => if s.alertStatus.show then some { s with alertStatus := .closed } else none

/-- A screen that has navigated away receives no event. -/
def step (phoneNumberScheme : String → Bool) (s : State) (e : Event) : Option State :=
  if s.mounted then deliver phoneNumberScheme s e else none

/-- `EnrollmentWizardScreen`, mounted at time `0`. -/
def screen (phoneNumberScheme : String → Bool) : Machine State Event :=
  ⟨initial, step phoneNumberScheme⟩

/-! ### What a step can do -/

/-- A step of the screen, by its event: what the event does, under the guard that lets it
through.  Every fact about all steps is proved from this, one case per event. -/
theorem step_cases {phoneNumberScheme : String → Bool} {motive : Event → State → Prop}
    {s s' : State} {e : Event} (h : step phoneNumberScheme s e = some s')
    (elapse : ∀ ms, motive (.elapse ms) { s with now := s.now + ms })
    (poll : ∀ pe p, s.poller.step s.now pe = some p → motive (.poll pe) (render { s with poller := p }))
    (entryResolved : ∀ v, s.entryPending = true →
      motive (.entryResolved v) (loadUserData v { s with entryPending := false }))
    (entryRejected : s.entryPending = true →
      motive .entryRejected { s with entryPending := false, canFinish := true })
    (settled : ∀ r o, r ∈ s.outstanding →
      motive (.settled r o) (settle r o { s with outstanding := s.outstanding.erase r }))
    (phoneTimeout : ∀ d rest, s.phoneTimeouts = d :: rest → d ≤ s.now →
      motive .phoneTimeout { s with phoneTimeouts := rest, isInPhoneSubmissionTimeout := false })
    (clickNext : showsSteps s = true → canPressNext s = true →
      motive .clickNext (escape s (handleNext s)))
    (clickBack : showsSteps s = true → s.activeStep ≠ 0 → motive .clickBack (handleBack s))
    (clickSkip : showsSteps s = true → s.activeStep = 0 →
      motive .clickSkip (escape s (handleSkip s.activeStep s)))
    (pressEnter : motive .pressEnter (escape s (handleNext s)))
    (editComputerName : ∀ v, showsSteps s = true → s.activeStep = 0 →
      motive (.editComputerName v) { s with computerName := v })
    (editPhoneNumber : ∀ v, showsPhoneEnrollView s = true →
      motive (.editPhoneNumber v) { s with phoneNumber := v })
    (clickPhoneSubmit : showsPhoneEnrollView s = true → s.isInPhoneSubmissionTimeout = false →
      motive .clickPhoneSubmit (handlePhoneSubmission phoneNumberScheme s.phoneNumber s))
    (clickChangeMode : showsMfaChangeModeButton s = true →
      motive .clickChangeMode (handleEnrollmentModeChange s))
    (completeCode : ∀ code, showsCodeField s = true → motive (.completeCode code) (handleCodeSubmit code s))
    (closeSnackbar : s.alertStatus.show = true → motive .closeSnackbar { s with alertStatus := .closed }) :
  motive e s'
  := by
  unfold step at h
  split at h
  case isFalse => cases h
  cases e <;>
    simp only [deliver, Option.ite_none_right_eq_some, Option.some.injEq, Option.map_eq_some',
      Bool.and_eq_true, Bool.not_eq_true', bne_iff_ne, ne_eq, isStepOptional, beq_iff_eq] at h
  case elapse ms => exact h ▸ elapse ms
  case poll pe =>
    obtain ⟨p, hp, rfl⟩ := h
    exact poll pe p hp
  case entryResolved v => exact h.2 ▸ entryResolved v h.1
  case entryRejected => exact h.2 ▸ entryRejected h.1
  case settled r o => exact h.2 ▸ settled r o h.1
  case phoneTimeout =>
    split at h
    · simp only [Option.ite_none_right_eq_some, Option.some.injEq] at h
      exact h.2 ▸ phoneTimeout _ _ ‹_› h.1
    · cases h
  case clickNext => exact h.2 ▸ clickNext h.1.1 h.1.2
  case clickBack => exact h.2 ▸ clickBack h.1.1 h.1.2
  case clickSkip => exact h.2 ▸ clickSkip h.1.1 h.1.2
  case pressEnter => exact h ▸ pressEnter
  case editComputerName v => exact h.2 ▸ editComputerName v h.1.1 h.1.2
  case editPhoneNumber v => exact h.2 ▸ editPhoneNumber v h.1
  case clickPhoneSubmit => exact h.2 ▸ clickPhoneSubmit h.1.1 h.1.2
  case clickChangeMode => exact h.2 ▸ clickChangeMode h.1
  case completeCode code => exact h.2 ▸ completeCode code h.1
  case closeSnackbar => exact h.2 ▸ closeSnackbar h.1

end CyoloLogin.EnrollmentWizardScreen
