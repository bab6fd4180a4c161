import Cmput313.Router.Programs

/-!
# Runs of the router

A run starts from `sr_arpcache_init` and performs operations that complete, at
clock values that never go back.  An operation that reads or frees a freed node
does not complete.  Here an operation is not interrupted; `Threads` is about the
two threads in `handle_arpreq`.
-/

set_option autoImplicit false

namespace Cmput313.Router

open Cmput313.Program

inductive Operation where
  | handlePacket (buf : Bytes) (iface : Name)
  | sweepRequests
  | timeout
  deriving DecidableEq

def Operation.perform (memory : Memory) (depth : Nat) : Operation → Sr Unit
  | .handlePacket buf iface => srHandlepacket memory depth ⟨.frame, buf⟩ iface
  | .sweepRequests => srArpcacheSweepreqs memory depth
  | .timeout => srArpcacheTimeout memory depth

def SrInstance.atTime (sr : SrInstance) (now : Int) : SrInstance :=
  { sr with clock := now }

/-- One operation that completes, at a clock value no earlier than the last. -/
inductive Step (before after : SrInstance) : Prop where
  | perform (memory : Memory) (depth : Nat) (operation : Operation) (now : Int)
      (later : before.clock ≤ now)
      (completes :
        operation.perform memory depth (before.atTime now) = .ok () after)

def Run (start : SrInstance) : SrInstance → Prop :=
  Relation.ReflTransGen Step start

theorem keeps_moves_perform {start : SrInstance} (memory : Memory) (depth : Nat)
    (operation : Operation) :
    KeepsMoves True start (operation.perform memory depth) fun _ => True := by
  cases operation with
  | handlePacket buf iface => exact keeps_moves_srHandlepacket memory depth _ iface
  | sweepRequests => exact keeps_moves_srArpcacheSweepreqs memory depth
  | timeout => exact keeps_moves_srArpcacheTimeout memory depth

theorem Step.moves {before after : SrInstance} (step : Step before after) :
    ∃ now, before.clock ≤ now ∧ Moves (before.atTime now) after := by
  cases step with
  | perform memory depth operation now later completes =>
      exact ⟨now, later,
        ((keeps_moves_perform memory depth operation).of_ok (Moves.refl _)
          completes).1⟩

/-- Induction over runs: what the clock and every move preserve, every run of
completing operations does. -/
theorem Run.preserves {start sr : SrInstance} (run : Run start sr)
    (invariant : SrInstance → Prop) (initially : invariant start)
    (clock : ∀ sr now, sr.clock ≤ now → invariant sr → invariant (sr.atTime now))
    (preserved : ∀ before after, invariant before → Move before after →
      invariant after) : invariant sr := by
  induction run with
  | refl => exact initially
  | tail _ step inductionHypothesis =>
      obtain ⟨now, later, moves⟩ := step.moves
      exact moves.preserves invariant (clock _ now later inductionHypothesis) preserved

theorem Run.ifList {start sr : SrInstance} (run : Run start sr) :
    sr.ifList = start.ifList :=
  run.preserves (fun sr => sr.ifList = start.ifList) rfl
    (fun _ _ _ same => same) fun _ _ same move => move.grows.ifList.trans same

theorem Run.routingTable {start sr : SrInstance} (run : Run start sr) :
    sr.routingTable = start.routingTable :=
  run.preserves (fun sr => sr.routingTable = start.routingTable) rfl
    (fun _ _ _ same => same) fun _ _ same move => move.grows.routingTable.trans same

theorem addressed_atTime {sr : SrInstance} (addressed : Addressed sr) (now : Int) :
    Addressed (sr.atTime now) :=
  addressed.perm (List.Perm.refl _) (Nat.le_refl _)

theorem Run.preserves_addressed {start sr : SrInstance} (run : Run start sr)
    (addressed : Addressed start) : Addressed sr :=
  run.preserves Addressed addressed (fun _ now _ before => addressed_atTime before now)
    fun _ _ before move => move.preserves_addressed before

/-! ## A small network

One interface, 10.0.0.1, one route, 10.0.0.0/8 through 10.0.0.9, and a datagram
from 10.0.0.2 to 10.0.0.3 that the router forwards.
-/

def eth0 : SrIf where
  name := [101, 116, 104, 48]
  addr := #v[2, 0, 0, 0, 0, 1]
  ip := htonl 0x0a000001

def lanRoute : SrRt where
  dest := htonl 0x0a000000
  gw := htonl 0x0a000009
  mask := htonl 0xff000000
  interface := eth0.name

def smallNetwork : SrInstance := srArpcacheInit [eth0] [lanRoute] 100

def datagram : Bytes :=
  [2, 0, 0, 0, 0, 1, 2, 0, 0, 0, 0, 2, 8, 0,
    0x45, 0, 0, 20, 0, 0, 0, 0, 64, 0xfd, 0x65, 0xe9, 10, 0, 0, 2, 10, 0, 0, 3]

def forwardedDatagram : Bytes :=
  [2, 0, 0, 0, 0, 1, 2, 0, 0, 0, 0, 2, 8, 0,
    0x45, 0, 0, 20, 0, 0, 0, 0, 63, 0xfd, 0x66, 0xe9, 10, 0, 0, 2, 10, 0, 0, 3]

/-- An ARP reply to the router from 10.0.0.`host` at 02:00:00:00:00:`mac`. -/
def arpReplyFrom (host mac : UInt8) : Bytes :=
  [2, 0, 0, 0, 0, 1, 2, 0, 0, 0, 0, mac, 8, 6,
    0, 1, 8, 0, 6, 4, 0, 2, 2, 0, 0, 0, 0, mac, 10, 0, 0, host,
    2, 0, 0, 0, 0, 1, 10, 0, 0, 1]

def noMemory : Memory where
  beyond := fun _ => 0
  fresh := fun _ => 0

def waitingNetwork : SrInstance :=
  finalState ((Operation.handlePacket datagram eth0.name).perform noMemory 1)
    smallNetwork

theorem run_waitingNetwork : Run smallNetwork waitingNetwork := by
  refine Relation.ReflTransGen.single
    (.perform noMemory 1 (.handlePacket datagram eth0.name) 100 (by decide) ?_)
  exact eq_ok_of_returns (by decide +kernel)

end Cmput313.Router
