import Mathlib.Tactic.Common

/-!
# Two runs that look the same

Two machines take the same events, each with its own secret.  Where one event looks
the same in related states exactly under a condition, and keeps the states related
under it, two runs look the same exactly if every event meets the condition.
-/

set_option autoImplicit false

namespace Cmput313.Unwinding

variable {σ ε ω : Type}

/-- A machine that shows something for every event, and stops where it has no step. -/
structure Reactive (σ ε ω : Type) where
  step : σ → ε → Option σ
  output : σ → ε → ω

/-- What is seen of a run, event by event; of a machine that has stopped, `idle`. -/
def observe (machine : Reactive σ ε ω) (idle : ω) : Option σ → List ε → List ω
  | _, [] => []
  | none, _ :: rest => idle :: observe machine idle none rest
  | some state, event :: rest =>
      machine.output state event :: observe machine idle (machine.step state event) rest

def Agree (first second : Reactive σ ε ω) (agrees : σ → σ → ε → Prop) :
    Option σ → Option σ → List ε → Prop
  | some left, some right, event :: rest =>
      agrees left right event ∧
        Agree first second agrees (first.step left event) (second.step right event) rest
  | _, _, _ => True

theorem observe_none (machine : Reactive σ ε ω) (idle : ω) (events : List ε) :
    observe machine idle none events = List.replicate events.length idle := by
  induction events with
  | nil => rfl
  | cons event rest inductionHypothesis =>
      rw [observe, inductionHypothesis, List.length_cons, List.replicate_succ]

structure Unwinds (first second : Reactive σ ε ω) (related : σ → σ → Prop)
    (agrees : σ → σ → ε → Prop) : Prop where
  visible : ∀ left right event, related left right →
    (first.output left event = second.output right event ↔ agrees left right event)
  next : ∀ left right event, related left right → agrees left right event →
    Option.Rel related (first.step left event) (second.step right event)

theorem Unwinds.observe_eq_iff {first second : Reactive σ ε ω} {related : σ → σ → Prop}
    {agrees : σ → σ → ε → Prop} (unwinds : Unwinds first second related agrees) (idle : ω)
    (events : List ε) : ∀ {left right : Option σ}, Option.Rel related left right →
      (observe first idle left events = observe second idle right events ↔
        Agree first second agrees left right events) := by
  induction events with
  | nil =>
      intro left right states
      cases states <;> simp [observe, Agree]
  | cons event rest inductionHypothesis =>
      intro left right states
      cases states with
      | none =>
          rw [observe_none, observe_none]
          exact iff_of_true rfl trivial
      | some here =>
          rename_i left right
          rw [observe, observe, Agree, List.cons_eq_cons,
            unwinds.visible left right event here]
          exact and_congr_right fun meets =>
            inductionHypothesis (unwinds.next left right event here meets)

end Cmput313.Unwinding
