import Cmput313.Router.QueueInvariant

/-!
# Runs that are written down

`Logged` is a run together with its operations, the clock each of them read and
what each of them left in the trace.
-/

set_option autoImplicit false

namespace Cmput313.Router

open Cmput313.Program

/-- The events with the clock of the operation that they belong to. -/
abbrev History := List (Int × Event)

structure LogEntry where
  now : Int
  operation : Operation
  events : List Event

def LogEntry.history (entry : LogEntry) : History :=
  entry.events.map fun event => (entry.now, event)

def history (log : List LogEntry) : History := log.flatMap LogEntry.history

inductive Logged (start : SrInstance) : List LogEntry → SrInstance → Prop where
  | start : Logged start [] start
  | perform {log : List LogEntry} {before after : SrInstance} (memory : Memory)
      (depth : Nat) (operation : Operation) (now : Int)
      (logged : Logged start log before) (later : before.clock ≤ now)
      (completes :
        operation.perform memory depth (before.atTime now) = .ok () after) :
      Logged start
        (log ++ [⟨now, operation, after.trace.drop before.trace.length⟩]) after

section Logged

variable {start sr : SrInstance} {log : List LogEntry}

theorem Logged.run (logged : Logged start log sr) : Run start sr := by
  induction logged with
  | start => exact Relation.ReflTransGen.refl
  | perform memory depth operation now _ later completes inductionHypothesis =>
      exact inductionHypothesis.tail (.perform memory depth operation now later completes)

theorem Run.logged (run : Run start sr) : ∃ log, Logged start log sr := by
  induction run with
  | refl => exact ⟨[], .start⟩
  | tail _ step inductionHypothesis =>
      obtain ⟨log, logged⟩ := inductionHypothesis
      cases step with
      | perform memory depth operation now later completes =>
          exact ⟨_, logged.perform memory depth operation now later completes⟩

end Logged

/-! ## Guarded moves of an operation -/

theorem keeps_guarded_perform {guards : Guards} {start : SrInstance}
    (ready : guards.ready → Ready start) (memory : Memory) (depth : Nat)
    (operation : Operation)
    (heard : ∀ buf iface, operation = .handlePacket buf iface → ∀ mac ip,
      HearsReply memory start.ifList buf mac ip → guards.heard mac ip) :
    KeepsGuarded guards True start (operation.perform memory depth) fun _ => True := by
  cases operation with
  | handlePacket buf iface =>
      exact keeps_guarded_srHandlepacket memory ready depth ⟨.frame, buf⟩ iface
        (heard buf iface rfl)
  | sweepRequests => exact keeps_guarded_srArpcacheSweepreqs memory ready depth
  | timeout => exact keeps_guarded_srArpcacheTimeout memory ready depth

theorem ready_srArpcacheInit (ifList : List SrIf) (routingTable : List SrRt) (clock : Int) :
    Ready (srArpcacheInit ifList routingTable clock) where
  addressed := addressed_srArpcacheInit ifList routingTable clock
  datagrams := fun _ member => absurd member List.not_mem_nil

theorem ready_atTime {sr : SrInstance} (ready : Ready sr) (now : Int) : Ready (sr.atTime now) :=
  ready_of_requests ready (addressed_atTime ready.addressed now) (List.Subset.refl _)

def ordered : Guards where
  ready := True
  heard := fun _ _ => True

theorem Step.guardedMoves {before after : SrInstance} (step : Step before after)
    (ready : Ready before) :
    ∃ now, before.clock ≤ now ∧ GuardedMoves ordered (before.atTime now) after := by
  cases step with
  | perform memory depth operation now later completes =>
      have keeps : KeepsGuarded ordered True (before.atTime now)
          (operation.perform memory depth) fun _ => True :=
        keeps_guarded_perform (fun _ => ready_atTime ready now) memory depth operation
          fun _ _ _ _ _ _ => trivial
      exact ⟨now, later, (keeps.of_ok (.refl _ _) completes).1⟩

theorem Run.preserves_ready {start sr : SrInstance} (run : Run start sr)
    (ready : Ready start) : Ready sr := by
  induction run with
  | refl => exact ready
  | tail _ step inductionHypothesis =>
      obtain ⟨now, _, moves⟩ := step.guardedMoves inductionHypothesis
      exact moves.preserves_ready (fun _ => ready_atTime inductionHypothesis now) trivial

/-! ## The events of a move -/

/-- What the moves from one state to another left in the trace, at their clock. -/
def stamped (before after : SrInstance) : History :=
  (after.trace.drop before.trace.length).map fun event => (before.clock, event)

theorem stamped_append {first second third : SrInstance} (early : Grows first second)
    (late : Grows second third) :
    stamped first second ++ stamped second third = stamped first third := by
  obtain ⟨new, secondTrace⟩ := early.trace
  obtain ⟨newer, thirdTrace⟩ := late.trace
  rw [stamped, stamped, stamped, early.clock, ← thirdTrace, List.drop_left, ← secondTrace,
    List.drop_left, List.append_assoc, List.drop_left, List.map_append]

theorem GuardedMoves.preserves_history {guards : Guards} {start sr : SrInstance}
    (guarded : GuardedMoves guards start sr) (invariant : History → SrInstance → Prop)
    {past : History} (initially : invariant past start)
    (preserved : ∀ past before after, invariant past before →
      GuardedMove guards before after → invariant (past ++ stamped before after) after) :
    invariant (past ++ stamped start sr) sr := by
  induction guarded with
  | refl =>
      rw [stamped, List.drop_length, List.map_nil, List.append_nil]
      exact initially
  | tail reached move inductionHypothesis =>
      have kept := preserved _ _ _ inductionHypothesis move
      rwa [List.append_assoc, stamped_append (GuardedMoves.moves reached).grows
        move.move.grows] at kept

/-- Induction over runs: what the clock and every guarded move preserve, with the
history they add to, every run from a queue in order does. -/
theorem Logged.preserves_history {start sr : SrInstance} {log : List LogEntry}
    (logged : Logged start log sr) (ready : Ready start)
    (invariant : History → SrInstance → Prop) (initially : invariant [] start)
    (clock : ∀ past sr now, sr.clock ≤ now → invariant past sr → invariant past (sr.atTime now))
    (preserved : ∀ past before after, invariant past before →
      GuardedMove ordered before after → invariant (past ++ stamped before after) after) :
    invariant (history log) sr := by
  induction logged with
  | start => exact initially
  | @perform log before after memory depth operation now logged later completes
      inductionHypothesis =>
      have keeps : KeepsGuarded ordered True (before.atTime now)
          (operation.perform memory depth) fun _ => True :=
        keeps_guarded_perform (fun _ => ready_atTime (logged.run.preserves_ready ready) now)
          memory depth operation fun _ _ _ _ _ _ => trivial
      have moves := (keeps.of_ok (.refl _ _) completes).1
      have kept := moves.preserves_history invariant
        (clock _ _ now later inductionHypothesis) preserved
      have grown : history (log ++ [⟨now, operation, after.trace.drop before.trace.length⟩]) =
          history log ++ stamped (before.atTime now) after := by
        rw [history, List.flatMap_append, List.flatMap_singleton]
        rfl
      rw [grown]
      exact kept

end Cmput313.Router
