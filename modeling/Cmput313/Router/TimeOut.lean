import Cmput313.Router.RequestRelease
import Cmput313.Router.RetryTimer

/-!
# Giving up a request

`handle_arpreq` on a request that was sent five times reports each waiting packet
to its source and frees it.  The reports are routed like any other frame and may come
to the queue again; but whatever becomes of them, `sr_arpreq_destroy` then frees the
packets a second time.  Only a request that nothing waits for is given up.
-/

set_option autoImplicit false

namespace Cmput313.Router

open Cmput313.Bytes Cmput313.Keyed Cmput313.Program

/-! ## The branches of `handle_arpreq` -/

section Branches

variable {sr : SrInstance} {request : SrArpreq}

theorem ends_broadcastArpreq {returned : Unit → SrInstance → Prop}
    {stopped : Fault → SrInstance → Prop} (empty : request.packets = [] → stopped .nullPacket sr)
    (unsent : returned () sr)
    (sent : ∀ interface, returned () (sr.rebroadcast request interface)) :
    Ends (broadcastArpreq request) sr returned stopped := by
  unfold broadcastArpreq
  cases packets : request.packets with
  | nil => exact empty packets
  | cons packet rest =>
      rw [ends_bind, ends_get]
      cases srGetInterface sr.ifList packet.iface with
      | none => exact unsent
      | some interface =>
          simp only [ends_bind, ends_log]
          exact ends_srSendPacket _ _ _ _ _ fun _ => sent interface

variable (memory : Memory)

theorem ends_timeOutArpreq_nil (handle : Nat → Sr Unit) (nothing : request.packets = [])
    (returned : Unit → SrInstance → Prop) (stopped : Fault → SrInstance → Prop) :
    Ends (timeOutArpreq memory handle request) sr returned stopped ↔
      returned () ((sr.record (.timedOut request.id)).destroy request.id) := by
  rw [timeOutArpreq, nothing, ends_bind, List.forM, ends_pure]
  dsimp only
  rw [ends_bind, ends_log, ends_srArpreqDestroy]

/-- With a packet the branch never comes to its end. -/
theorem ends_timeOutArpreq_cons (handle : Nat → Sr Unit) {packet : SrPacket}
    {rest : List SrPacket} (waiting : request.packets = packet :: rest) :
    Ends (timeOutArpreq memory handle request) sr (fun _ _ => False) fun _ _ => True := by
  rw [timeOutArpreq, ends_bind]
  refine (ends_true _ sr).mono (fun _ reached _ => ?_) fun _ _ _ => trivial
  rw [waiting]
  trivial

variable (addressed : Addressed sr) (queued : request ∈ sr.requests) (depth : Nat)

include addressed queued

theorem ends_handleArpreq (returned : Unit → SrInstance → Prop)
    (stopped : Fault → SrInstance → Prop) :
    Ends (handleArpreq memory (depth + 1) request.id) sr returned stopped ↔
      if sr.clock - request.sent > 1 then
        if request.timesSent ≥ 5 then
          Ends (timeOutArpreq memory (handleArpreq memory depth) request) sr returned stopped
        else Ends (broadcastArpreq request) sr returned stopped
      else returned () sr := by
  have live : sr.request? request.id = some request :=
    addressed.request?_eq_some_iff.mpr ⟨mem_everyRequest_of_mem queued, rfl⟩
  rw [handleArpreq, ends_bind, ends_get]
  simp only [live, ends_ite, ends_pure]

end Branches

/-! ## What a request needs to be handled -/

/-- One call of `send_icmp_msg` for each packet that waited, and the request is off
the queue. -/
def GivesUp (sr next : SrInstance) (request : SrArpreq) : Prop :=
  (∀ packet ∈ request.packets, (next.trace.drop sr.trace.length).count
      (.icmp (.packet packet.id) icmpTypeDestUnreachable icmpDestUnreachableHost) = 1) ∧
    ∀ req ∈ next.requests, req.id ≠ request.id

def HandlesRequest (memory : Memory) (sr : SrInstance) (request : SrArpreq) : Prop :=
  ∃ depth next, handleArpreq memory depth request.id sr = .ok () next ∧
    (Expired sr.clock request → GivesUp sr next request)

/-- A request that is due holds a packet as long as it can be sent again, and none when it
is given up. -/
def Handleable (clock : Int) (request : SrArpreq) : Prop :=
  clock - request.sent > 1 → (request.packets = [] ↔ request.timesSent ≥ 5)

section Handle

variable {memory : Memory} {sr : SrInstance} {request : SrArpreq}

theorem handleable_of_ok (addressed : Addressed sr) (queued : request ∈ sr.requests)
    {depth : Nat} {next : SrInstance}
    (returned : handleArpreq memory depth request.id sr = .ok () next) :
    Handleable sr.clock request := by
  intro due
  cases depth with
  | zero => cases returned
  | succ depth =>
      have ends : Ends (handleArpreq memory (depth + 1) request.id) sr
          (fun _ _ => request.packets = [] ↔ request.timesSent ≥ 5) fun _ _ => True := by
        rw [ends_handleArpreq memory addressed queued, if_pos due]
        split
        · rename_i often
          cases waiting : request.packets with
          | nil =>
              rw [ends_timeOutArpreq_nil memory _ waiting]
              exact ⟨fun _ => often, fun _ => rfl⟩
          | cons packet rest =>
              exact (ends_timeOutArpreq_cons memory _ waiting).mono (fun _ _ no => no.elim)
                fun _ _ _ => trivial
        · rename_i left
          unfold broadcastArpreq
          cases waiting : request.packets with
          | nil => trivial
          | cons packet rest =>
              refine (ends_true _ sr).mono (fun _ _ _ => ?_) fun _ _ _ => trivial
              exact ⟨fun empty => absurd empty (List.cons_ne_nil _ _),
                fun often => absurd often left⟩
      exact ends.of_ok returned

theorem handlesRequest_of_handleable (addressed : Addressed sr)
    (queued : request ∈ sr.requests) (handleable : Handleable sr.clock request) :
    HandlesRequest memory sr request := by
  have ends : Ends (handleArpreq memory 1 request.id) sr
      (fun _ next => Expired sr.clock request → GivesUp sr next request) fun _ _ => False := by
    rw [ends_handleArpreq memory addressed queued]
    split
    · rename_i due
      split
      · rename_i often
        have nothing := (handleable due).mpr often
        rw [ends_timeOutArpreq_nil memory _ nothing]
        intro _
        refine ⟨fun packet held => ?_, fun req member same => ?_⟩
        · rw [nothing] at held
          cases held
        · rcases destroy_cases (sr.record (.timedOut request.id)) request.id with
            ⟨other, _, named, unlinked⟩ | ⟨none, kept⟩
          · rw [unlinked] at member
            have apart := (List.mem_filter.mp member).2
            simp [named, same] at apart
          · rw [kept] at member
            exact none req member same
      · rename_i left
        exact ends_broadcastArpreq (fun empty => left ((handleable due).mp empty))
          (fun expired => absurd expired.2 left) fun _ expired => absurd expired.2 left
    · rename_i early
      exact fun expired => absurd expired.1 early
  cases result : handleArpreq memory 1 request.id sr with
  | ok value next => exact ⟨1, next, result, ends.of_ok result⟩
  | error fault next => exact (ends.of_error result).elim

/-- The call returns and does what is asked of it exactly when the request can be
handled. -/
theorem handlesRequest_iff (addressed : Addressed sr) (queued : request ∈ sr.requests) :
    HandlesRequest memory sr request ↔ Handleable sr.clock request := by
  constructor
  · rintro ⟨depth, next, returned, _⟩
    exact handleable_of_ok addressed queued returned
  · exact handlesRequest_of_handleable addressed queued

end Handle

theorem waitingRequest_handled :
    HandlesRequest noMemory waitingNetwork waitingRequest ↔
      Handleable waitingNetwork.clock waitingRequest :=
  handlesRequest_iff addressed_waitingNetwork (by decide +kernel)

/-! ## The request on the heap -/

/-- The cells of a request that the heap holds, and the request of the instance. -/
structure Mirrors (sr : SrInstance) (req : SrArpreq) (state : OnHeap.HeapInstance)
    (request : OnHeap.WaitingRequest) : Prop where
  clock : state.sr.clock = sr.clock
  sent : request.sent = req.sent
  timesSent : request.timesSent = req.timesSent
  packets : request.packets.map OnHeap.WaitingPacket.bytes = req.packets.map SrPacket.buf

/-- An expired request is handled here exactly when the heap is left with each of its
cells freed once. -/
theorem handlesRequest_iff_freesEachCellOnce {memory : Memory} {sr : SrInstance}
    {req : SrArpreq} (addressed : Addressed sr) (queued : req ∈ sr.requests)
    (expired : Expired sr.clock req) {state : OnHeap.HeapInstance}
    {before after : List OnHeap.WaitingRequest} {request : OnHeap.WaitingRequest}
    (represents : OnHeap.Represents state (before ++ request :: after))
    (mirrors : Mirrors sr req state request) (depth : Nat) :
    HandlesRequest memory sr req ↔
      OnHeap.FreesEachCellOnce memory (depth + 1) request state := by
  have overdue : state.sr.clock - request.sent > 1 := by
    rw [mirrors.clock, mirrors.sent]
    exact expired.1
  have tries : request.timesSent ≥ 5 := by
    rw [mirrors.timesSent]
    exact expired.2
  have same : request.packets = [] ↔ req.packets = [] := by
    rw [← List.map_eq_nil_iff, mirrors.packets, List.map_eq_nil_iff]
  rw [handlesRequest_iff addressed queued,
    OnHeap.timedOut_request_freed_once_iff memory represents overdue tries depth, same]
  exact ⟨fun handleable => (handleable expired.1).mpr expired.2,
    fun nothing _ => ⟨fun _ => expired.2, fun _ => nothing⟩⟩

/-! ## A datagram that no error can be sent for -/

def strayFrame : Bytes :=
  [2, 0, 0, 0, 0, 1, 2, 0, 0, 0, 0, 2, 8, 0,
    0x45, 0, 0, 20, 0, 0, 0, 0, 64, 0xfd, 0xaf, 0x40, 192, 168, 0, 2, 10, 0, 0, 3]

def strayWaiting : SrInstance :=
  finalState (srHandlepacket noMemory 1 ⟨.frame, strayFrame⟩ eth0.name) smallNetwork

def expiredNetwork : SrInstance := (afterSweeps noMemory 1 strayWaiting 101 8).atTime 110

def expiredRequest : SrArpreq where
  id := 0
  ip := lanRoute.gw
  sent := 108
  timesSent := 5
  packets := [⟨1, OnHeap.strayDatagram, strncpy srIfaceNamelen eth0.name⟩]

theorem run_expiredNetwork : Run smallNetwork (afterSweeps noMemory 1 strayWaiting 101 8) := by
  have first : Run smallNetwork strayWaiting :=
    .single (.perform noMemory 1 (.handlePacket strayFrame eth0.name) 100 (by decide)
      (eq_ok_of_returns (by decide +kernel)))
  exact run_afterSweeps first 8 (by decide +kernel)

/-- There is no route back to report the datagram on, and it is freed twice. -/
theorem expiredRequest_not_handled :
    Run smallNetwork (afterSweeps noMemory 1 strayWaiting 101 8) ∧
      expiredNetwork.requests = [expiredRequest] ∧
      ¬ HandlesRequest noMemory expiredNetwork expiredRequest := by
  have queue : expiredNetwork.requests = [expiredRequest] := by decide +kernel
  have addressed : Addressed expiredNetwork :=
    addressed_atTime (run_expiredNetwork.preserves_addressed
      (addressed_srArpcacheInit [eth0] [lanRoute] 100)) 110
  refine ⟨run_expiredNetwork, queue, ?_⟩
  rintro ⟨depth, next, returned, _⟩
  have handleable := handleable_of_ok addressed (queue ▸ List.mem_singleton_self _) returned
  have nothing := (handleable (by decide +kernel)).mpr (by decide)
  exact absurd nothing (List.cons_ne_nil _ _)

end Cmput313.Router
