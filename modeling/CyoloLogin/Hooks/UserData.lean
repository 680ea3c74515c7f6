import CyoloLogin.Interfaces
import CyoloLogin.Run

/-!
# The session poller

`useUserData` sets an interval of `config.pollingInteval` ms when its screen mounts.
Each tick calls `getUserData` without waiting for the calls before it, and whichever
call resolves stores its result with `setUserData`; a call that rejects is an unhandled
rejection and changes nothing.  A `Poller` is the hook's state together with the calls
still outstanding, each named by the number of the tick that issued it, so that calls
may settle in any order.  A tick may run late, and the interval is then due again
`pollingInteval` ms after the tick ran: this is an assumption on the browser's
`setInterval`, whose repeating timer may instead keep to the times it was first due.  No
result below reads the interval's deadline.  `hook now` is the hook of a screen mounted at `now`, as a
`Machine` whose events come with the time at which they happen.

* `published_last_resolved`: the hook publishes the value of the call that resolved last,
  in the order the calls resolved, whichever tick issued it; a rejected call changes
  nothing.
* `late_response_overwrites`: a call issued by an earlier tick that resolves after the
  call of a later tick overwrites that later result.
-/

namespace CyoloLogin

/-- The state of `useUserData`: the published `userData`, when the interval is next due,
how many ticks have run, and the ticks whose call is outstanding. -/
structure Poller where
  userData : Option IUser
  nextTick : Nat
  ticks : Nat
  outstanding : List Nat
  deriving DecidableEq, Repr

namespace Poller

/-- The hook of a screen mounted at time `now`: nothing published, no call issued. -/
def initial (now : Nat) : Poller :=
  ⟨none, now + config.pollingInteval, 0, []⟩

/-- The events of the hook: the interval fires, or the call of a tick resolves with the
value `getUserData` returns, or rejects. -/
inductive Event where
  | tick
  | resolved (tick : Nat) (userData : Option IUser)
  | rejected (tick : Nat)
  deriving DecidableEq, Repr

/-- The hook's reaction to an event at time `now`. -/
def step (p : Poller) (now : Nat) : Event → Option Poller
  | .tick =>
    if p.nextTick ≤ now then
      some { p with nextTick := now + config.pollingInteval, ticks := p.ticks + 1,
                    outstanding := p.outstanding ++ [p.ticks] }
    else none
  | .resolved k v =>
    if k ∈ p.outstanding then some { p with outstanding := p.outstanding.erase k, userData := v }
    else none
  | .rejected k =>
    if k ∈ p.outstanding then some { p with outstanding := p.outstanding.erase k } else none

/-- The value a call of `getUserData` resolved with, for the event of that resolution. -/
def Event.result : Event → Option (Option IUser)
  | .resolved _ v => some v
  | _ => none

/-- A step publishes the value of a resolved call, and keeps what was published
otherwise. -/
theorem step_userData_eq {p p' : Poller} {now : Nat} {e : Event} (h : p.step now e = some p') :
  p'.userData = e.result.getD p.userData
  := by
  cases e <;> simp only [step, Option.ite_none_right_eq_some, Option.some.injEq] at h <;>
    obtain ⟨-, rfl⟩ := h <;> rfl

/-! ### Runs of the hook -/

/-- `useUserData` in a screen mounted at time `now`; each event comes with the time at
which it happens. -/
def hook (now : Nat) : Machine Poller (Nat × Event) :=
  ⟨initial now, fun p e => p.step e.1 e.2⟩

/-- The value of the call that resolved last in a run, if one resolved. -/
def lastResolved (es : List (Nat × Event)) : Option (Option IUser) :=
  es.reverse.findSome? fun e => e.2.result

theorem lastResolved_cons (e : Nat × Event) (es : List (Nat × Event)) :
  lastResolved (e :: es) = (lastResolved es).or e.2.result
  := by
  simp only [lastResolved, List.reverse_cons, List.findSome?_append, List.findSome?_cons,
    List.findSome?_nil]
  cases e.2.result <;> rfl

/-- After a run, the hook publishes the value of the call that resolved last in it, or
what it published before when none did. -/
theorem run_userData (now : Nat) {es : List (Nat × Event)} :
  ∀ {p p' : Poller}, (hook now).run p es = some p' → p'.userData = (lastResolved es).getD p.userData
  := by
  induction es with
  | nil =>
    intro p p' h
    cases h
    rfl
  | cons e es ih =>
    intro p p' h
    obtain ⟨p₁, h₁, h₂⟩ := Option.bind_eq_some.mp h
    rw [ih h₂, step_userData_eq h₁, lastResolved_cons]
    cases lastResolved es <;> rfl

/-- The hook publishes the value of the call that resolved last, in the order the calls
resolved, whichever tick issued it, and `undefined` until one resolves; a rejected call
changes nothing. -/
theorem published_last_resolved (now : Nat) (es : List (Nat × Event)) (p : Poller)
    (h : (hook now).run (initial now) es = some p) :
  p.userData = (lastResolved es).getD none
  := run_userData now h

/-- The tick and the value of the latest-issued call among those a run has resolved. -/
def latestIssuedResolved : List (Nat × Event) → Option (Nat × Option IUser)
  | [] => none
  | (_, .resolved k v) :: es =>
    match latestIssuedResolved es with
    | some (k', v') => if k < k' then some (k', v') else some (k, v)
    | none => some (k, v)
  | _ :: es => latestIssuedResolved es

/-- Two ticks `2000` ms apart; the second tick's call resolves with a session, then the
first tick's call resolves with `undefined` and overwrites it. -/
theorem late_response_overwrites :
  ¬ ∀ (es : List (Nat × Event)) (p : Poller), (hook 0).run (initial 0) es = some p →
      ∀ k v, latestIssuedResolved es = some (k, v) → p.userData = v
  := by
  intro h
  have := h [(2000, .tick), (4000, .tick),
    (4000, .resolved 1 (some ⟨"1", "user", "alice", false, true, "", "", "", "", 1, "", true, true,
      true⟩)), (4000, .resolved 0 none)] _ rfl 1 _ rfl
  cases this

/-- The same run: what is published is the value of the last resolution, `undefined`. -/
theorem published_last_resolved_of_late_response :
  ∃ es p, (hook 0).run (initial 0) es = some p ∧ lastResolved es = some none ∧
    p.userData = (lastResolved es).getD none
  := ⟨[(2000, .tick), (4000, .tick),
      (4000, .resolved 1 (some ⟨"1", "user", "alice", false, true, "", "", "", "", 1, "", true, true,
        true⟩)), (4000, .resolved 0 none)], _, rfl, rfl, published_last_resolved 0 _ _ rfl⟩

end Poller

end CyoloLogin
