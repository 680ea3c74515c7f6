import Mathlib.Data.List.Basic

/-!
# Runs of a screen

A screen is a `Machine`: the state it mounts in, and a `step` that gives, for each event
the browser can deliver, the state after the event, or `none` when the event cannot be
delivered in that state (a button that is not rendered, a timer that is not due, a
request that is not outstanding).  `Machine.run` folds a list of events through `step`,
and `Machine.Reachable` is every state some run reaches.

Every property of whole runs below is obtained from two lemmas: `Reachable.induction`,
an invariant kept by every step holds of every reachable state, and `run_rel`, a
reflexive and transitive relation that every step of a run satisfies relates its first
and last states.
-/

namespace CyoloLogin

/-- A screen: the state it mounts in, and its reaction to each event. -/
structure Machine (σ ε : Type) where
  initial : σ
  step : σ → ε → Option σ

namespace Machine

variable {σ ε : Type} (m : Machine σ ε)

/-- The state after the events, in order, or `none` if one of them cannot be delivered. -/
def run : σ → List ε → Option σ
  | s, [] => some s
  | s, e :: es => (m.step s e).bind fun s' => run s' es

@[simp]
theorem run_nil (s : σ) :
  m.run s [] = some s
  := rfl

@[simp]
theorem run_cons (s : σ) (e : ε) (es : List ε) :
  m.run s (e :: es) = (m.step s e).bind fun s' => m.run s' es
  := rfl

theorem run_append (s : σ) (es es' : List ε) :
  m.run s (es ++ es') = (m.run s es).bind fun s' => m.run s' es'
  := by
  induction es generalizing s with
  | nil => rfl
  | cons e es ih =>
    simp only [List.cons_append, run_cons, ih, Option.bind_assoc]

/-- The states some run from `initial` reaches. -/
def Reachable (s : σ) : Prop :=
  ∃ es, m.run m.initial es = some s

theorem Reachable.initial :
  m.Reachable m.initial
  := ⟨[], rfl⟩

theorem Reachable.step {m : Machine σ ε} {s s' : σ} {e : ε} (h : m.Reachable s)
    (hs : m.step s e = some s') :
  m.Reachable s'
  := by
  obtain ⟨es, hes⟩ := h
  exact ⟨es ++ [e], by simp [run_append, hes, hs]⟩

/-- A relation that holds of every step of a run, and is reflexive and transitive,
relates the run's first and last states. -/
theorem run_rel {R : σ → σ → Prop} (hrefl : ∀ s, R s s)
    (htrans : ∀ s₁ s₂ s₃, R s₁ s₂ → R s₂ s₃ → R s₁ s₃) {es : List ε}
    (hstep : ∀ s e s', e ∈ es → m.step s e = some s' → R s s') :
  ∀ {s s'}, m.run s es = some s' → R s s'
  := by
  induction es with
  | nil =>
    intro s s' h
    cases h
    exact hrefl s
  | cons e es ih =>
    intro s s' h
    obtain ⟨s₁, h₁, h₂⟩ := Option.bind_eq_some.mp h
    exact htrans _ _ _ (hstep _ _ _ (List.mem_cons_self e es) h₁)
      (ih (fun s e s' he => hstep s e s' (List.mem_cons_of_mem _ he)) h₂)

/-- A property kept by every step holds after every run from a state that has it. -/
theorem run_preserves {P : σ → Prop} (hstep : ∀ s e s', P s → m.step s e = some s' → P s')
    {es : List ε} {s s' : σ} (hs : P s) (h : m.run s es = some s') :
  P s'
  := m.run_rel (R := fun s s' => P s → P s') (fun _ h => h) (fun _ _ _ h₁ h₂ h => h₂ (h₁ h))
    (fun s e s' _ he h => hstep s e s' h he) h hs

/-- An invariant that holds of `initial` and is kept by every step holds of every
reachable state. -/
theorem Reachable.induction {m : Machine σ ε} {s : σ} (h : m.Reachable s) {I : σ → Prop}
    (h₀ : I m.initial) (hstep : ∀ s e s', I s → m.step s e = some s' → I s') :
  I s
  := by
  obtain ⟨es, hes⟩ := h
  exact m.run_preserves hstep h₀ hes

end Machine

end CyoloLogin
