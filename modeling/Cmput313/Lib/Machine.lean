import Mathlib.Tactic.Common

/-!
# Runs of a machine that reacts to events

A machine takes a step for an event, or none where the event cannot happen.  A run
is a list of events; what the allowed steps preserve holds wherever a run of allowed
steps leads.
-/

set_option autoImplicit false

namespace Cmput313.Machine

variable {σ ε : Type} (step : σ → ε → Option σ)

def run : σ → List ε → Option σ
  | state, [] => some state
  | state, event :: rest => (step state event).bind fun next => run next rest

/-- Every event of the run is allowed in the state in which it happens. -/
def Meets (allowed : σ → ε → Prop) : σ → List ε → Prop
  | _, [] => True
  | state, event :: rest =>
      allowed state event ∧ ∀ next, step state event = some next → Meets allowed next rest

variable {step}

instance decidableMeets {allowed : σ → ε → Prop}
    [∀ state event, Decidable (allowed state event)] :
    ∀ state events, Decidable (Meets step allowed state events)
  | _, [] => isTrue trivial
  | state, event :: rest =>
      match taken : step state event with
      | none => decidable_of_iff (allowed state event)
          ⟨fun first => ⟨first, fun _ other => nomatch taken.symm.trans other⟩, And.left⟩
      | some next =>
          have : Decidable (Meets step allowed next rest) := decidableMeets next rest
          decidable_of_iff (allowed state event ∧ Meets step allowed next rest)
            ⟨fun both => ⟨both.1, fun _ other => Option.some.inj (taken.symm.trans other) ▸ both.2⟩,
              fun meets => ⟨meets.1, meets.2 next taken⟩⟩

theorem run_append {first last : List ε} :
    ∀ {state middle : σ}, run step state first = some middle →
      run step state (first ++ last) = run step middle last := by
  induction first with
  | nil =>
      intro state middle reached
      cases reached
      rfl
  | cons event rest inductionHypothesis =>
      intro state middle reached
      obtain ⟨next, taken, later⟩ := Option.bind_eq_some_iff.mp reached
      rw [List.cons_append, run, taken, Option.bind_some]
      exact inductionHypothesis later

theorem run_preserves {allowed : σ → ε → Prop} {invariant : σ → Prop}
    (preserved : ∀ state event next, invariant state → allowed state event →
      step state event = some next → invariant next)
    {events : List ε} : ∀ {start final : σ}, invariant start →
      Meets step allowed start events → run step start events = some final →
      invariant final := by
  induction events with
  | nil =>
      intro start final holds _ reached
      exact Option.some.inj reached ▸ holds
  | cons event rest inductionHypothesis =>
      intro start final holds meets reached
      obtain ⟨next, taken, later⟩ := Option.bind_eq_some_iff.mp reached
      exact inductionHypothesis (preserved start event next holds meets.1 taken)
        (meets.2 next taken) later

theorem meets_of_forall {allowed : σ → ε → Prop} {events : List ε}
    (every : ∀ event ∈ events, ∀ state, allowed state event) :
    ∀ start, Meets step allowed start events := by
  induction events with
  | nil => exact fun _ => trivial
  | cons event rest inductionHypothesis =>
      intro start
      have later := inductionHypothesis fun other member =>
        every other (List.mem_cons_of_mem _ member)
      exact ⟨every event (List.mem_cons_self ..) start, fun next _ => later next⟩

theorem run_keeps {invariant : σ → Prop}
    (preserved : ∀ state event next, invariant state → step state event = some next →
      invariant next)
    {events : List ε} : ∀ {start final : σ}, invariant start →
      run step start events = some final → invariant final := by
  induction events with
  | nil =>
      intro start final holds reached
      exact Option.some.inj reached ▸ holds
  | cons event rest inductionHypothesis =>
      intro start final holds reached
      obtain ⟨next, taken, later⟩ := Option.bind_eq_some_iff.mp reached
      exact inductionHypothesis (preserved start event next holds taken) later

def runEnd (step : σ → ε → Option σ) (start : σ) (events : List ε) : σ :=
  (run step start events).getD start

theorem run_eq_runEnd {start : σ} {events : List ε} (ends : (run step start events).isSome) :
    run step start events = some (runEnd step start events) := by
  rw [runEnd, Option.getD_of_ne_none (Option.isSome_iff_ne_none.mp ends)]

end Cmput313.Machine
