import Cmput313.Router.RequestCells
import Cmput313.Router.Emission

/-!
# Who frees the cells of a request

`sr_arpreq_destroy` takes a request off the queue and frees each of its cells
once, whatever waits on it.  The branch of `handle_arpreq` that gives up frees the
packet nodes before it calls that function, and reads them again.
-/

set_option autoImplicit false

namespace Cmput313.Router.OnHeap

open Cmput313.Bytes Cmput313.Keyed Cmput313.Program

/-! ## `sr_arpreq_destroy` -/

/-- The cells at these addresses were freed one after the other; of the heap, the
cells of `rest` are known to be left. -/
structure Released (start : HeapInstance) (addresses : List Addr)
    (rest : List (Addr × Cell)) (next : HeapInstance) : Prop where
  sr : next.sr = start.sr
  requests : next.requests = start.requests
  holds : next.heap.Holds rest
  freed : next.heap.freed = addresses.reverse ++ start.heap.freed

theorem ends_destroyPackets {rest : List (Addr × Cell)} (packets : List WaitingPacket)
    (steps : Nat) (state : HeapInstance) (enough : packets.length ≤ steps)
    (holds : state.heap.Holds (packetCells packets ++ rest)) :
    Ends (destroyPackets steps (firstPacket packets)) state
      (fun _ => Released state ((packetCells packets).map Prod.fst) rest)
      (fun _ _ => False) := by
  induction packets generalizing steps state with
  | nil =>
      have last : firstPacket [] = none := rfl
      rw [last, destroyPackets, ends_pure]
      exact ⟨rfl, rfl, holds, rfl⟩
  | cons packet later inductionHypothesis =>
      obtain _ | steps := steps
      · cases enough
      have node : state.heap.cells packet.node = some (.packet
          { buf := some packet.buf, len := packet.bytes.length, iface := some packet.iface,
            next := firstPacket later }) :=
        holds.live (packet.node, _) (by simp [packetCells])
      obtain ⟨noBuf, bufFreed, bufHolds, bufLedger, _⟩ := holds.free
      obtain ⟨noIface, ifaceFreed, ifaceHolds, ifaceLedger, _⟩ := bufHolds.free
      obtain ⟨noNode, nodeFreed, nodeHolds, nodeLedger, _⟩ := ifaceHolds.free
      have walked := inductionHypothesis steps { state with heap := noNode }
        (Nat.le_of_succ_le_succ enough) nodeHolds
      have first : firstPacket (packet :: later) = some packet.node := rfl
      rw [first, destroyPackets, ends_bind, ends_readPacket node]
      dsimp only [freeIfSet]
      rw [ends_bind, ends_free bufFreed, ends_bind, ends_free ifaceFreed, ends_bind,
        ends_free nodeFreed]
      refine walked.mono (fun _ next released => ?_) (fun _ _ no => no)
      refine ⟨released.sr, released.requests, released.holds, ?_⟩
      rw [released.freed, nodeLedger, ifaceLedger, bufLedger]
      simp [packetCells]

structure Unlinked (start : HeapInstance) (before after : List WaitingRequest)
    (request : WaitingRequest) (next : HeapInstance) : Prop where
  sr : next.sr = start.sr
  requests : next.requests = firstRequest none (before ++ after)
  holds : next.heap.Holds (request.cells (firstRequest none after) ++
    queueCells none (before ++ after))
  freed : next.heap.freed = start.heap.freed

theorem ends_relink {state : HeapInstance} {front after : List WaitingRequest}
    {last request : WaitingRequest}
    (represents : Represents state ((front ++ [last]) ++ request :: after)) :
    Ends (updateArpreq last.entry fun before =>
        { before with next := firstRequest none after }) state
      (fun _ => Unlinked state (front ++ [last]) after request) (fun _ _ => False) := by
  have split := represents.holds
  rw [queueCells_append, queueCells_concat, List.append_assoc, List.cons_append] at split
  have live : state.heap.cells last.entry =
      some (.arpreq (last.cell (firstRequest none (request :: after)))) :=
    split.live (last.entry, _) (by simp)
  obtain ⟨heap, written, holds, freed, _⟩ :=
    split.write_middle (.arpreq (last.cell (firstRequest none after)))
  rw [ends_updateArpreq live written]
  refine ⟨rfl, ?_, ?_, freed⟩
  · rw [represents.requests]
    simp only [firstRequest_append]
    rfl
  · refine holds.perm ?_
    rw [queueCells_append, queueCells_concat, queueCells, ← List.cons_append,
      ← List.append_assoc]
    exact List.perm_append_comm_assoc ..

/-- The entry is reached behind the requests already passed, `passed`, the last of
which is `prev`. -/
theorem ends_unlinkFrom {request : WaitingRequest} {after : List WaitingRequest}
    (ahead passed : List WaitingRequest) (steps : Nat) (state : HeapInstance)
    (enough : ahead.length < steps)
    (represents : Represents state (passed ++ (ahead ++ request :: after))) :
    Ends (unlinkFrom request.entry steps (passed.getLast?.map WaitingRequest.entry)
        (firstRequest none (ahead ++ request :: after))) state
      (fun _ => Unlinked state (passed ++ ahead) after request) (fun _ _ => False) := by
  induction ahead generalizing passed steps with
  | nil =>
      obtain _ | steps := steps
      · cases enough
      rw [List.nil_append] at represents ⊢
      have live := holds_mem_queue represents
      rw [List.append_nil, firstRequest, unlinkFrom, ends_bind, ends_readArpreq live,
        if_pos rfl]
      obtain rfl | ⟨front, last, rfl⟩ := List.eq_nil_or_concat' passed
      · exact ⟨rfl, rfl, represents.holds, rfl⟩
      · rw [List.getLast?_concat]
        exact ends_relink represents
  | cons other ahead inductionHypothesis =>
      obtain _ | steps := steps
      · cases enough
      have live := holds_mem_queue represents
      have apart : other.entry ≠ request.entry :=
        (represents.distinct.split request (by simp)).symm
      have further := inductionHypothesis (passed ++ [other]) steps
        (Nat.lt_of_succ_lt_succ enough) (by rwa [List.append_assoc])
      rw [List.getLast?_concat, List.append_assoc] at further
      rw [List.cons_append, firstRequest, unlinkFrom, ends_bind, ends_readArpreq live,
        if_neg apart]
      exact further

/-- `sr_arpreq_destroy` frees every cell of a request of the queue, once, and leaves
the others linked as before. -/
theorem ends_srArpreqDestroy {state : HeapInstance} {before after : List WaitingRequest}
    {request : WaitingRequest}
    (represents : Represents state (before ++ request :: after)) :
    Ends (srArpreqDestroy (some request.entry)) state
      (fun _ next => Represents next (before ++ after) ∧ next.sr = state.sr ∧
        next.heap.freed.Perm (request.addresses ++ state.heap.freed))
      (fun _ _ => False) := by
  have enough : before.length < state.heap.bound := by
    have short := represents.length_le
    rw [List.length_append, List.length_cons] at short
    omega
  have unlinks := ends_unlinkFrom before [] state.heap.bound state enough represents
  rw [srArpreqDestroy, ends_bind, ends_get, represents.requests, ends_bind]
  refine unlinks.mono (fun _ unlinked unlinks => ?_) (fun _ _ no => no)
  have cells := unlinks.holds
  rw [WaitingRequest.cells, List.cons_append] at cells
  rw [ends_bind, ends_readArpreq cells.head, ends_bind, ends_get, ends_bind]
  have packetsFit : request.packets.length ≤ unlinked.heap.bound := by
    have whole := cells.length_le
    have packets := length_le_packetCells request.packets
    rw [List.length_cons, List.length_append] at whole
    omega
  have destroys := ends_destroyPackets request.packets unlinked.heap.bound unlinked
    packetsFit (cells.perm List.perm_middle.symm)
  refine destroys.mono (fun _ released releases => ?_) (fun _ _ no => no)
  obtain ⟨heap, freed, holds, ledger, _⟩ := releases.holds.free
  rw [ends_free freed]
  refine ⟨⟨releases.requests.trans unlinks.requests, holds⟩,
    releases.sr.trans unlinks.sr, ?_⟩
  rw [ledger, releases.freed, unlinks.freed, WaitingRequest.addresses,
    WaitingRequest.cells, List.map_cons]
  exact ((List.reverse_perm _).append_right _).cons _

/-! ## `handle_arpreq` -/

section HandleArpreq

variable (memory : Memory) (handle : Addr → HeapSr Unit)

/-- With a packet in hand the walk never comes to its end: it reads the node that it
has just freed. -/
theorem sendHostUnreachable_never_returns (steps : Nat) (packet : Addr)
    (state : HeapInstance) :
    Ends (sendHostUnreachable memory handle steps (some packet)) state
      (fun _ _ => False) (fun _ _ => True) := by
  cases steps with
  | zero => trivial
  | succ steps =>
      rw [sendHostUnreachable, ends_bind]
      refine (ends_true _ state).mono (fun cell sent _ => ?_) (fun _ _ _ => trivial)
      rw [ends_bind]
      refine (ends_true _ sent).mono (fun _ freed _ => ?_) (fun _ _ _ => trivial)
      rw [ends_bind]
      refine (ends_free_gone freed packet).mono (fun _ next gone => ?_)
        (fun _ _ _ => trivial)
      rw [ends_bind, ends_readAs_gone gone]
      trivial

variable {state : HeapInstance} {before after : List WaitingRequest}
  {request : WaitingRequest}

theorem ends_handleArpreq_timedOut (represents : Represents state (before ++ request :: after))
    (overdue : state.sr.clock - request.sent > 1) (tries : request.timesSent ≥ 5)
    (depth : Nat) (returned : Unit → HeapInstance → Prop)
    (stopped : HeapFault → HeapInstance → Prop) :
    Ends (handleArpreq memory (depth + 1) request.entry) state returned stopped ↔
      Ends (sendHostUnreachable memory (handleArpreq memory depth) state.heap.bound
          (firstPacket request.packets)) state
        (fun _ next => Ends (srArpreqDestroy (some request.entry)) next returned stopped)
        stopped := by
  have live := holds_mem_queue represents
  rw [handleArpreq, ends_bind, ends_get, ends_bind, ends_readArpreq live,
    if_pos (by exact overdue), if_pos (by exact tries), timeOutArpreq, ends_bind,
    ends_readArpreq live, ends_bind, ends_get, ends_bind]
  rfl

/-- `handle_arpreq` returns, every cell of the request is gone, and none was freed
twice. -/
def FreesEachCellOnce (depth : Nat) (request : WaitingRequest) (state : HeapInstance) :
    Prop :=
  Ends (handleArpreq memory depth request.entry) state
    (fun _ next => ∀ address ∈ request.addresses,
      next.heap.cells address = none ∧ next.heap.freed.count address = 1)
    (fun _ _ => False)

theorem not_freesEachCellOnce_of_packet
    (represents : Represents state (before ++ request :: after))
    (overdue : state.sr.clock - request.sent > 1) (tries : request.timesSent ≥ 5)
    {packet : WaitingPacket} {rest : List WaitingPacket}
    (waiting : request.packets = packet :: rest) (depth : Nat) :
    ¬ FreesEachCellOnce memory (depth + 1) request state := by
  intro frees
  rw [FreesEachCellOnce, ends_handleArpreq_timedOut memory represents overdue tries,
    waiting] at frees
  have stuck := sendHostUnreachable_never_returns memory (handleArpreq memory depth)
    state.heap.bound packet.node state
  have both := stuck.and frees
  exact ((both.mono (fun _ _ no => no.1) (fun _ _ no => no.2) :
    Ends _ _ (fun _ _ => False) (fun _ _ => False)).finalState)

theorem freesEachCellOnce_of_noPackets
    (represents : Represents state (before ++ request :: after))
    (overdue : state.sr.clock - request.sent > 1) (tries : request.timesSent ≥ 5)
    (noPackets : request.packets = []) (depth : Nat) :
    FreesEachCellOnce memory (depth + 1) request state := by
  rw [FreesEachCellOnce, ends_handleArpreq_timedOut memory represents overdue tries,
    noPackets]
  have walked : firstPacket [] = none := rfl
  rw [walked, sendHostUnreachable, ends_pure]
  refine (ends_srArpreqDestroy represents).mono (fun _ next destroyed => ?_)
    (fun _ _ no => no)
  obtain ⟨_, _, ledger⟩ := destroyed
  intro address own
  have member : address ∈ next.heap.freed :=
    ledger.symm.subset (List.mem_append_left _ own)
  exact ⟨(next.heap.removed address member).2, Heap.count_freed member⟩

/-- A request that timed out is given back cell by cell, without a look at a freed one,
if and only if no packet waits on it; what its errors would do makes no difference. -/
theorem timedOut_request_freed_once_iff
    (represents : Represents state (before ++ request :: after))
    (overdue : state.sr.clock - request.sent > 1) (tries : request.timesSent ≥ 5)
    (depth : Nat) :
    FreesEachCellOnce memory (depth + 1) request state ↔ request.packets = [] := by
  constructor
  · intro frees
    cases waiting : request.packets with
    | nil => rfl
    | cons packet rest =>
        exact absurd frees
          (not_freesEachCellOnce_of_packet memory represents overdue tries waiting depth)
  · intro noPackets
    exact freesEachCellOnce_of_noPackets memory represents overdue tries noPackets depth

end HandleArpreq

/-! ## Where the walk fails -/

section Settled

variable (memory : Memory)

/-- An error for this packet has no route, or the gateway of its route is cached. -/
def Settled (sr : SrInstance) (bytes : Bytes) : Prop :=
  longestPrefixMatching sr.routingTable (peek32 memory.beyond bytes ipSrc) = none ∨
    ∃ route arpEntry interface,
      longestPrefixMatching sr.routingTable (peek32 memory.beyond bytes ipSrc) =
        some route ∧
      srArpcacheLookup sr.entries route.gw = some arpEntry ∧
      srGetInterface sr.ifList route.interface = some interface

theorem ends_sendIcmpError_cached {sr : SrInstance} {route : SrRt} {arpEntry : SrArpentry}
    {interface : SrIf} (cached : srArpcacheLookup sr.entries route.gw = some arpEntry)
    (packet : Buf) (handle : Nat → Sr Unit) :
    Ends (sendIcmpError memory handle packet icmpTypeDestUnreachable
        icmpDestUnreachableHost route (some interface)) sr
      (fun _ next => next.requests = sr.requests) (fun _ _ => False) := by
  have notPort : ¬ icmpDestUnreachableHost = icmpDestUnreachablePort := by decide
  have long := fun src dst quoted => icmpErrorPacket_long memory
    (headerLength (peek memory.beyond packet.bytes ipVhl)) icmpTypeDestUnreachable
    icmpDestUnreachableHost src dst quoted
  have hit : ∀ accesses,
      srArpcacheLookup (sr.accessed accesses).entries route.gw = some arpEntry :=
    fun _ => cached
  rw [sendIcmpError, ends_bind, ends_load8, ends_bind, errorSource, if_neg notPort]
  simp only [ends_bind, ends_dereference_some, ends_pure, ends_load32, ends_load,
    touched_eq_accessed, accessed_accessed]
  generalize icmpErrorPacket memory (headerLength (peek memory.beyond packet.bytes ipVhl))
    icmpTypeDestUnreachable icmpDestUnreachableHost = newPacket at long ⊢
  have room : ∀ src dst quoted,
      34 ≤ (Buf.mk .newPacket (newPacket src dst quoted)).bytes.length :=
    fun src dst quoted => Nat.le_trans (by decide) (long src dst quoted)
  refine (ends_sendOrQueue_hit (hit _) (room _ _ _) handle interface _).mono
    (fun _ next sent => ?_) (fun _ _ no => no)
  rw [sent]
  rfl

theorem ends_sendIcmpMsg_settled {sr : SrInstance} (packet : Buf)
    (settled : Settled memory sr packet.bytes) (handle : Nat → Sr Unit) :
    Ends (Router.sendIcmpMsg memory handle packet icmpTypeDestUnreachable
        icmpDestUnreachableHost) sr
      (fun _ next => next.requests = sr.requests) (fun _ _ => False) := by
  have notEcho : ¬ icmpTypeDestUnreachable = icmpTypeEchoReply := by decide
  rw [Router.sendIcmpMsg, ends_bind, ends_log, ends_bind, ends_touch, ends_bind, ends_load32,
    ends_bind, ends_get]
  obtain unrouted | ⟨route, arpEntry, interface, routed, cached, found⟩ := settled
  · simp only [SrInstance.touched, SrInstance.record, unrouted, ends_pure]
  · simp only [SrInstance.touched, SrInstance.record, routed, found, if_neg notEcho, or_true,
      if_true]
    exact ends_sendIcmpError_cached memory (by exact cached) packet handle

theorem ends_sendIcmpMsg_onHeap {state : HeapInstance} (clear : state.sr.requests = [])
    {packet : WaitingPacket} (settled : Settled memory state.sr packet.bytes)
    (live : state.heap.cells packet.buf = some (.buf packet.bytes)) {cell : PacketCell}
    (buf : cell.buf = some packet.buf) (len : cell.len = packet.bytes.length)
    (handle : Addr → HeapSr Unit) :
    Ends (sendIcmpMsg memory handle packet.node cell icmpTypeDestUnreachable
        icmpDestUnreachableHost) state
      (fun _ next => next.heap = state.heap) (fun _ _ => False) := by
  have viewed : Cell.buf? (.buf packet.bytes) = some packet.bytes := rfl
  rw [sendIcmpMsg, buf, follow, ends_bind, ends_pure, ends_bind, ends_readAs live viewed, len,
    List.take_length, ends_bind, ends_onSr]
  refine (ends_sendIcmpMsg_settled memory ⟨.packet packet.node, packet.bytes⟩ settled
    fun _ => return ()).mono
    (fun _ sr kept => ?_) (fun _ _ no => no)
  rw [ends_bind, ends_get, ends_bind, ends_modify, kept, clear]
  rfl

/-- The error of the first packet is sent, its node freed, and then its `next` read. -/
theorem timedOut_request_reads_freed_node {state : HeapInstance}
    {before after : List WaitingRequest} {request : WaitingRequest}
    (represents : Represents state (before ++ request :: after))
    (clear : state.sr.requests = []) (overdue : state.sr.clock - request.sent > 1)
    (tries : request.timesSent ≥ 5) {packet : WaitingPacket} {rest : List WaitingPacket}
    (waiting : request.packets = packet :: rest)
    (settled : Settled memory state.sr packet.bytes) (depth : Nat) :
    Ends (handleArpreq memory (depth + 1) request.entry) state (fun _ _ => False)
      (fun fault next => fault = .gone packet.node ∧ packet.node ∈ next.heap.freed) := by
  have cells := represents.holds
  rw [queueCells_append, queueCells, WaitingRequest.cells, waiting, packetCells] at cells
  have nodeLive : state.heap.cells packet.node = some (.packet
      { buf := some packet.buf, len := packet.bytes.length, iface := some packet.iface,
        next := firstPacket rest }) := cells.live (packet.node, _) (by simp)
  have bufLive : state.heap.cells packet.buf = some (.buf packet.bytes) :=
    cells.live (packet.buf, _) (by simp)
  have steps : (0 : Nat) < state.heap.bound := by
    have short := represents.length_le
    rw [List.length_append, List.length_cons] at short
    omega
  obtain ⟨bound, enough⟩ := Nat.exists_eq_succ_of_ne_zero (Nat.ne_of_gt steps)
  have first : firstPacket (packet :: rest) = some packet.node := rfl
  rw [ends_handleArpreq_timedOut memory represents overdue tries, waiting, first, enough,
    sendHostUnreachable, ends_bind, ends_readPacket nodeLive, ends_bind]
  refine (ends_sendIcmpMsg_onHeap memory clear settled bufLive rfl rfl _).mono
    (fun _ sent same => ?_) (fun _ _ no => no.elim)
  rw [← same] at nodeLive
  have alone : sent.heap.Holds [(packet.node, .packet
      { buf := some packet.buf, len := packet.bytes.length, iface := some packet.iface,
        next := firstPacket rest })] :=
    ⟨fun entry member => List.mem_singleton.mp member ▸ nodeLive, List.nodup_singleton _⟩
  obtain ⟨heap, freed, _, ledger, _⟩ := alone.free
  rw [ends_bind, ends_free freed, ends_bind, ends_readAs_gone (Heap.cells_of_free freed)]
  exact ⟨rfl, ledger ▸ List.mem_cons_self ..⟩

end Settled

/-! ## A datagram from an address without a route -/

def strayDatagram : Bytes :=
  [2, 0, 0, 0, 0, 1, 2, 0, 0, 0, 0, 2, 8, 0,
    0x45, 0, 0, 20, 0, 0, 0, 0, 63, 0xfd, 0xb0, 0x40, 192, 168, 0, 2, 10, 0, 0, 3]

def strayRequest : WaitingRequest where
  entry := 0
  ip := lanRoute.gw
  sent := 90
  timesSent := 5
  packets := [⟨1, 2, 3, strayDatagram, strncpy srIfaceNamelen eth0.name⟩]

def strayNetwork : HeapInstance where
  sr := smallNetwork
  requests := some 0
  heap := (((Heap.empty.alloc (.arpreq (strayRequest.cell none))).alloc
    (.packet ⟨some 2, 34, some 3, none⟩)).alloc (.buf strayDatagram)).alloc
      (.iface (strncpy srIfaceNamelen eth0.name))

theorem represents_strayNetwork : Represents strayNetwork ([] ++ [strayRequest]) where
  requests := rfl
  holds := ⟨by decide +kernel, by decide +kernel⟩

theorem strayRequest_freed_once_iff :
    FreesEachCellOnce noMemory 1 strayRequest strayNetwork ↔ strayRequest.packets = [] :=
  timedOut_request_freed_once_iff noMemory represents_strayNetwork (by decide) (by decide) 0

/-- Its error cannot be routed back, and the walk reads the node it has freed. -/
theorem strayRequest_node_read_after_free :
    ¬ ∀ (memory : Memory) (depth : Nat) (state : HeapInstance)
      (before after : List WaitingRequest) (request : WaitingRequest),
      Represents state (before ++ request :: after) → state.sr.requests = [] →
      state.sr.clock - request.sent > 1 → request.timesSent ≥ 5 →
      (∀ packet ∈ request.packets, Settled memory state.sr packet.bytes) →
      FreesEachCellOnce memory (depth + 1) request state := by
  intro always
  have unrouted : ∀ packet ∈ strayRequest.packets,
      Settled noMemory strayNetwork.sr packet.bytes := by
    intro packet member
    rw [List.mem_singleton.mp member]
    exact Or.inl (by decide +kernel)
  have frees := always noMemory 0 strayNetwork [] [] strayRequest represents_strayNetwork rfl
    (by decide) (by decide) unrouted
  exact not_freesEachCellOnce_of_packet noMemory represents_strayNetwork (by decide)
    (by decide) rfl 0 frees

end Cmput313.Router.OnHeap
