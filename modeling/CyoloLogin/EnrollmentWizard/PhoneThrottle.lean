import CyoloLogin.EnrollmentWizard.Screen

/-!
# The throttle of the SMS enrollment

`handlePhoneSubmission` sets `isInPhoneSubmissionTimeout` before it issues
`initiateSmsMessage`, and a timer clears the flag `3000` ms later; `PhoneEnrollView`
disables its Submit button while the flag is set.  The flag is state of the screen, not
of the view, so it survives the view being unmounted by a mode switch and mounted again.

`Throttle` is what the throttle reads and writes: the clock, the flag, the pending
timers, and the times of the SMS requests sent.  `Throttle.Step` says what it does: time
passes, a send while the flag is clear, or the first timer fires once due.  Every
handler but `handlePhoneSubmission` leaves the throttle alone, so every step of the
screen is a step of the throttle or leaves it unchanged (`step_throttle`).  The
throttle's `Invariant` is kept by its steps, and from it:

* `initiateSmsMessage_spaced`: any two `initiateSmsMessage` requests of a run of the
  screen are issued at least `3000` ms apart.
* `phone_timer_pending_iff`: the Submit button is disabled exactly while one throttle
  timer is pending, never with two and never with none to enable it again.
-/

namespace CyoloLogin.EnrollmentWizardScreen

/-- The state of the throttle: the clock, `isInPhoneSubmissionTimeout`, the deadlines of
its pending timers, and the times at which `initiateSmsMessage` was issued. -/
structure Throttle where
  now : Nat
  timeout : Bool
  timers : List Nat
  sent : List Nat

/-- The throttle of a state of the screen. -/
def throttle (s : State) : Throttle :=
  ⟨s.now, s.isInPhoneSubmissionTimeout, s.phoneTimeouts,
    issuedAt Request.isInitiateSmsMessage s.issued⟩

/-- What the throttle does: time passes; a submission while the flag is clear sends now,
sets the flag and arms a timer for `3000` ms later; the first timer, once due, fires and
clears the flag. -/
inductive Throttle.Step : Throttle → Throttle → Prop
  | elapse (t : Throttle) (ms : Nat) : Step t { t with now := t.now + ms }
  | send (t : Throttle) :
      t.timeout = false →
      Step t ⟨t.now, true, t.timers ++ [t.now + 3000], t.sent ++ [t.now]⟩
  | fire (t : Throttle) (d : Nat) (rest : List Nat) :
      t.timers = d :: rest → d ≤ t.now → Step t ⟨t.now, false, rest, t.sent⟩

/-- The sends are `3000` ms apart, and either the flag is clear, no timer is pending and
the last send is `3000` ms old, or the flag is set and the one pending timer is due no
earlier than `3000` ms after every send. -/
structure Throttle.Invariant (t : Throttle) : Prop where
  spaced : t.sent.Pairwise fun a b => a + 3000 ≤ b
  idle_or_armed :
    (t.timeout = false ∧ t.timers = [] ∧ ∀ a ∈ t.sent, a + 3000 ≤ t.now) ∨
    (t.timeout = true ∧ ∃ d, t.timers = [d] ∧ ∀ a ∈ t.sent, a + 3000 ≤ d)

theorem Throttle.Invariant.step {t t' : Throttle} (hi : t.Invariant) (h : Throttle.Step t t') :
  t'.Invariant
  := by
  obtain ⟨hsp, hia⟩ := hi
  cases h with
  | elapse ms =>
    refine ⟨hsp, hia.imp (fun ⟨h₁, h₂, h₃⟩ => ⟨h₁, h₂, fun a ha => ?_⟩) id⟩
    have := h₃ a ha
    simp only
    omega
  | send hclear =>
    obtain ⟨-, htimers, hold⟩ := hia.resolve_right (by simp [hclear])
    refine ⟨List.pairwise_append.mpr ⟨hsp, by simp, by simpa using hold⟩,
      .inr ⟨rfl, t.now + 3000, by simp [htimers], fun a ha => ?_⟩⟩
    rcases List.mem_append.mp ha with ha | ha
    · have := hold a ha
      omega
    · simp only [List.mem_singleton] at ha
      omega
  | fire d rest hd hdue =>
    obtain ⟨-, d', hone, hsent⟩ := hia.resolve_left (by simp [hd])
    obtain ⟨rfl, rfl⟩ : d' = d ∧ rest = [] := by simpa [hone] using hd
    exact ⟨hsp, .inl ⟨rfl, rfl, fun a ha => (hsent a ha).trans hdue⟩⟩

/-! ### Every other handler leaves the throttle alone -/

theorem throttle_issue {r : Request} (hr : r.isInitiateSmsMessage = false) (s : State) :
  throttle (issue r s) = throttle s
  := by
  simp [throttle, issue, hr]

/-- A valid submission is a send of the throttle. -/
theorem throttle_handlePhoneSubmission_valid (phoneNumber : String) (s : State) :
  throttle (issue (.initiateSmsMessage phoneNumber)
      { s with isInPhoneSubmissionTimeout := true, phoneTimeouts := s.phoneTimeouts ++ [s.now + 3000] })
    = ⟨s.now, true, s.phoneTimeouts ++ [s.now + 3000],
        issuedAt Request.isInitiateSmsMessage s.issued ++ [s.now]⟩
  := by
  simp [throttle, issue, Request.isInitiateSmsMessage]

/-- `handleNext` sends no SMS. -/
theorem throttle_handleNext (s : State) :
  throttle (escape s (handleNext s)) = throttle s
  := by
  have hnone : issuedAt Request.isInitiateSmsMessage ((nextRequests s).map (Prod.mk s.now)) = [] := by
    simp only [issuedAt, List.map_eq_nil_iff, List.filter_eq_nil_iff, List.mem_map]
    rintro _ ⟨r, hr, rfl⟩
    rcases mem_nextRequests hr with rfl | rfl <;> exact Bool.false_ne_true
  rw [handleNext_eq]
  simp [throttle, hnone]

/-- Every step of the screen is a step of its throttle or leaves it unchanged. -/
theorem step_throttle {phoneNumberScheme : String → Bool} {s s' : State} {e : Event}
    (h : step phoneNumberScheme s e = some s') :
  throttle s' = throttle s ∨ Throttle.Step (throttle s) (throttle s')
  := by
  apply step_cases h
  case elapse => exact fun ms => .inr (.elapse _ ms)
  case phoneTimeout => exact fun d rest hd hdue => .inr (.fire _ d rest hd hdue)
  case clickPhoneSubmit =>
    intro _ hclear
    unfold handlePhoneSubmission
    split
    · rw [throttle_handlePhoneSubmission_valid]
      exact .inr (.send (throttle s) hclear)
    · exact .inl rfl
  case poll => exact fun _ _ _ => .inl ((congrArg throttle (render_eq _)).trans rfl)
  case entryResolved => exact fun v _ => .inl ((congrArg throttle (loadUserData_writes v _)).trans rfl)
  case settled => exact fun r o _ => .inl ((congrArg throttle (settle_eq r o _)).trans rfl)
  case clickNext => exact fun _ _ => .inl (throttle_handleNext s)
  case pressEnter => exact .inl (throttle_handleNext s)
  case clickSkip =>
    exact fun _ h₀ => .inl ((congrArg throttle (handleSkip_eq (h₀ ▸ rfl) s)).trans rfl)
  case completeCode =>
    intro code _
    rw [handleCodeSubmit_eq]
    exact .inl (throttle_issue (by cases s.enrollmentMode <;> rfl) _)
  all_goals (intros; exact .inl rfl)

/-- The throttle of every reachable state satisfies its invariant. -/
theorem throttle_invariant {phoneNumberScheme : String → Bool} {s : State}
    (h : (screen phoneNumberScheme).Reachable s) :
  (throttle s).Invariant
  := by
  refine h.induction (I := fun s => (throttle s).Invariant)
    ⟨List.Pairwise.nil, .inl ⟨rfl, rfl, fun a ha => by cases ha⟩⟩ (fun s e s' hi hs => ?_)
  rcases step_throttle hs with heq | hstep
  · exact heq ▸ hi
  · exact hi.step hstep

/-- Any two `initiateSmsMessage` requests of a run are issued at least `3000` ms apart. -/
theorem initiateSmsMessage_spaced (phoneNumberScheme : String → Bool) (s : State)
    (h : (screen phoneNumberScheme).Reachable s) :
  (issuedAt Request.isInitiateSmsMessage s.issued).Pairwise fun t t' => t + 3000 ≤ t'
  := (throttle_invariant h).spaced

/-- Two submissions of a phone number `3000` ms apart, the second right after the
throttle's timer fires. -/
theorem initiateSmsMessage_spaced_of_resubmission :
  ∃ s, (screen fun _ => true).Reachable s ∧
    issuedAt Request.isInitiateSmsMessage s.issued = [2000, 5000] ∧
    (issuedAt Request.isInitiateSmsMessage s.issued).Pairwise fun t t' => t + 3000 ≤ t'
  := by
  have hr : (screen fun _ => true).Reachable _ := ⟨[.elapse 2000, .poll .tick,
    .poll (.resolved 0 (some ⟨"1", "user", "alice", false, true, "", "", "", "", 1, "", false, false,
      false⟩)), .pressEnter, .clickChangeMode, .editPhoneNumber "+972", .clickPhoneSubmit,
    .elapse 3000, .phoneTimeout, .clickPhoneSubmit], rfl⟩
  exact ⟨_, hr, rfl, initiateSmsMessage_spaced _ _ hr⟩

/-- In every reachable state one throttle timer is pending while the Submit button is
disabled, and none otherwise. -/
theorem phone_timer_pending_iff (phoneNumberScheme : String → Bool) (s : State)
    (h : (screen phoneNumberScheme).Reachable s) :
  s.phoneTimeouts.length = if s.isInPhoneSubmissionTimeout then 1 else 0
  := by
  rcases (throttle_invariant h).idle_or_armed with ⟨hflag, htimers, -⟩ | ⟨hflag, d, htimers, -⟩
  · simp only [throttle] at hflag htimers
    simp [hflag, htimers]
  · simp only [throttle] at hflag htimers
    simp [hflag, htimers]

/-- A submission on the phone view disables the button and arms its timer. -/
theorem phone_timer_pending_iff_of_submission :
  ∃ s, (screen fun _ => true).Reachable s ∧ s.isInPhoneSubmissionTimeout = true ∧
    s.phoneTimeouts.length = if s.isInPhoneSubmissionTimeout then 1 else 0
  := by
  have hr : (screen fun _ => true).Reachable _ := ⟨[.elapse 2000, .poll .tick,
    .poll (.resolved 0 (some ⟨"1", "user", "alice", false, true, "", "", "", "", 1, "", false, false,
      false⟩)), .pressEnter, .clickChangeMode, .editPhoneNumber "+972", .clickPhoneSubmit], rfl⟩
  exact ⟨_, hr, rfl, phone_timer_pending_iff _ _ hr⟩

end CyoloLogin.EnrollmentWizardScreen
