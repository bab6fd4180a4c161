import Cmput313.Lib.Keyed
import Cmput313.Router.RequestHeap

/-!
# The queue that the heap represents

Which cells the heap holds for a queue of requests, and that the queue which
`sr_arpcache_queuereq` builds is represented by them.
-/

set_option autoImplicit false

namespace Cmput313.Router.OnHeap

open Cmput313.Keyed Cmput313.Program

/-! ## What the heap holds for a queue -/

structure WaitingPacket where
  node : Addr
  buf : Addr
  iface : Addr
  bytes : Bytes
  name : Name
  deriving DecidableEq

structure WaitingRequest where
  entry : Addr
  ip : UInt32
  sent : Int
  timesSent : Nat
  packets : List WaitingPacket
  deriving DecidableEq

def firstPacket (packets : List WaitingPacket) : Option Addr :=
  packets.head?.map WaitingPacket.node

def packetCells : List WaitingPacket → List (Addr × Cell)
  | [] => []
  | packet :: rest =>
      (packet.buf, .buf packet.bytes) :: (packet.iface, .iface packet.name) ::
        (packet.node, .packet
          { buf := some packet.buf, len := packet.bytes.length, iface := some packet.iface,
            next := firstPacket rest }) ::
        packetCells rest

def WaitingRequest.cell (request : WaitingRequest) (next : Option Addr) : ArpreqCell :=
  { ip := request.ip, sent := request.sent, timesSent := request.timesSent,
    packets := firstPacket request.packets, next }

def WaitingRequest.cells (request : WaitingRequest) (next : Option Addr) :
    List (Addr × Cell) :=
  (request.entry, .arpreq (request.cell next)) :: packetCells request.packets

/-- Every cell of a request: itself and the three of each of its packets. -/
def WaitingRequest.addresses (request : WaitingRequest) : List Addr :=
  (request.cells none).map Prod.fst

/-- The pointer to a queue that goes on at `last`. -/
def firstRequest (last : Option Addr) : List WaitingRequest → Option Addr
  | [] => last
  | request :: _ => some request.entry

def queueCells (last : Option Addr) : List WaitingRequest → List (Addr × Cell)
  | [] => []
  | request :: rest => request.cells (firstRequest last rest) ++ queueCells last rest

/-- The queue is these requests, in order, and every cell of it is live. -/
structure Represents (state : HeapInstance) (queue : List WaitingRequest) : Prop where
  requests : state.requests = firstRequest none queue
  holds : state.heap.Holds (queueCells none queue)

theorem firstRequest_append (last : Option Addr) (front back : List WaitingRequest) :
    firstRequest last (front ++ back) = firstRequest (firstRequest last back) front := by
  cases front <;> rfl

theorem queueCells_append (last : Option Addr) (front back : List WaitingRequest) :
    queueCells last (front ++ back) =
      queueCells (firstRequest last back) front ++ queueCells last back := by
  induction front with
  | nil => rfl
  | cons request rest inductionHypothesis =>
      rw [List.cons_append, queueCells, queueCells, inductionHypothesis,
        firstRequest_append, List.append_assoc]

theorem queueCells_concat (last : Option Addr) (front : List WaitingRequest)
    (request : WaitingRequest) :
    queueCells last (front ++ [request]) = queueCells (some request.entry) front ++
      (request.entry, .arpreq (request.cell last)) :: packetCells request.packets := by
  rw [queueCells_append, queueCells, queueCells, List.append_nil]
  rfl

theorem length_le_packetCells (packets : List WaitingPacket) :
    packets.length ≤ (packetCells packets).length := by
  induction packets with
  | nil => exact Nat.le_refl _
  | cons packet rest inductionHypothesis =>
      simp only [packetCells, List.length_cons]
      omega

theorem holds_mem_queue {state : HeapInstance} {front back : List WaitingRequest}
    {request : WaitingRequest}
    (represents : Represents state (front ++ request :: back)) :
    state.heap.cells request.entry = some (.arpreq (request.cell (firstRequest none back))) := by
  refine represents.holds.live (request.entry, .arpreq (request.cell (firstRequest none back))) ?_
  rw [queueCells_append, queueCells, WaitingRequest.cells]
  simp

theorem entries_sublist (last : Option Addr) (queue : List WaitingRequest) :
    (queue.map WaitingRequest.entry).Sublist ((queueCells last queue).map Prod.fst) := by
  induction queue with
  | nil => exact .refl _
  | cons request rest inductionHypothesis =>
      rw [queueCells, WaitingRequest.cells, List.cons_append, List.map_cons, List.map_cons,
        List.map_append]
      exact (inductionHypothesis.trans (List.sublist_append_right _ _)).cons_cons _

theorem Represents.distinct {state : HeapInstance} {queue : List WaitingRequest}
    (represents : Represents state queue) : Distinct WaitingRequest.entry queue :=
  represents.holds.distinct.sublist (entries_sublist none queue)

theorem Represents.length_le {state : HeapInstance} {queue : List WaitingRequest}
    (represents : Represents state queue) : queue.length ≤ state.heap.bound := by
  have short := (entries_sublist none queue).length_le
  rw [List.length_map, List.length_map] at short
  exact Nat.le_trans short represents.holds.length_le

/-! ## `sr_arpcache_queuereq` -/

theorem ends_findRequest (ip : UInt32) {state : HeapInstance}
    (ahead passed : List WaitingRequest) (steps : Nat) (enough : ahead.length ≤ steps)
    (represents : Represents state (passed ++ ahead)) :
    Ends (findRequest ip steps (firstRequest none ahead)) state
      (fun found next => next = state ∧
        (found = none ∨ ∃ before request after, passed ++ ahead = before ++ request :: after ∧
          found = some request.entry))
      (fun _ _ => False) := by
  induction ahead generalizing passed steps with
  | nil =>
      rw [firstRequest, findRequest, ends_pure]
      exact ⟨rfl, Or.inl rfl⟩
  | cons request after inductionHypothesis =>
      obtain _ | steps := steps
      · cases enough
      have live := holds_mem_queue represents
      rw [firstRequest, findRequest, ends_bind, ends_readArpreq live, ends_ite]
      split
      · exact ⟨rfl, Or.inr ⟨passed, request, after, rfl, rfl⟩⟩
      · have further := inductionHypothesis (passed ++ [request]) steps
          (Nat.le_of_succ_le_succ enough) (by rwa [List.append_assoc])
        rw [List.append_assoc] at further
        exact further

theorem ends_findOrCreateRequest (ip : UInt32) {state : HeapInstance}
    {queue : List WaitingRequest} (represents : Represents state queue) :
    Ends (findOrCreateRequest ip) state
      (fun req next => ∃ before request after, request.entry = req ∧
        Represents next (before ++ request :: after))
      (fun _ _ => False) := by
  have search := ends_findRequest ip queue [] state.heap.bound represents.length_le represents
  rw [findOrCreateRequest, ends_bind, ends_get, represents.requests, ends_bind]
  refine search.mono (fun found next result => ?_) (fun _ _ no => no)
  obtain ⟨rfl, rfl | ⟨before, request, after, split, rfl⟩⟩ := result
  · rw [ends_bind, ends_malloc, ends_bind, ends_modify, ends_pure]
    exact ⟨[], { entry := next.heap.bound, ip, sent := 0, timesSent := 0, packets := [] },
      queue, rfl, rfl, represents.holds.alloc _⟩
  · rw [List.nil_append] at split
    exact ⟨before, request, after, rfl, split ▸ represents⟩

theorem queueCells_middle (before after : List WaitingRequest) (request : WaitingRequest) :
    queueCells none (before ++ request :: after) =
      queueCells (some request.entry) before ++
        (request.entry, .arpreq (request.cell (firstRequest none after))) ::
          (packetCells request.packets ++ queueCells none after) := by
  rw [queueCells_append, queueCells, WaitingRequest.cells, List.cons_append]
  rfl

def WaitingRequest.push (request : WaitingRequest) (packet : WaitingPacket) :
    WaitingRequest :=
  { request with packets := packet :: request.packets }

theorem perm_push {α : Type} (name buf node entry : α) (front rest : List α) :
    ([name, buf] ++ node :: front ++ entry :: rest).Perm
      (front ++ entry :: buf :: name :: node :: rest) := by
  have moved := List.perm_append_comm_assoc [buf, name, node] (front ++ [entry]) rest
  refine (List.Perm.swap buf name _).trans ?_
  simpa using moved

theorem ends_srArpcacheQueuereq (ip : UInt32) (packet : Bytes) (iface : Name)
    {state : HeapInstance} {queue : List WaitingRequest} (represents : Represents state queue) :
    Ends (srArpcacheQueuereq ip packet iface) state
      (fun req next => ∃ before request after, request.entry = req ∧
        Represents next (before ++ request :: after) ∧
        (packet ≠ [] → ∃ waiting, request.packets.head? = some waiting ∧
          waiting.bytes = packet ∧ waiting.name = strncpy srIfaceNamelen iface))
      (fun _ _ => False) := by
  rw [srArpcacheQueuereq, ends_bind]
  refine (ends_findOrCreateRequest ip represents).mono (fun req found result => ?_)
    (fun _ _ no => no)
  obtain ⟨before, request, after, rfl, represented⟩ := result
  rw [ends_ite]
  split
  · let fresh : Cell := .packet { buf := none, len := 0, iface := none, next := none }
    let withNode := found.heap.alloc fresh
    let withBuf := withNode.alloc (.buf packet)
    let withName := withBuf.alloc (.iface (strncpy srIfaceNamelen iface))
    let waiting : WaitingPacket := ⟨found.heap.bound, withNode.bound, withBuf.bound, packet,
      strncpy srIfaceNamelen iface⟩
    let node : Cell := .packet
      ⟨some waiting.buf, packet.length, some waiting.iface, firstPacket request.packets⟩
    let own : List (Addr × Cell) :=
      [(waiting.iface, .iface waiting.name), (waiting.buf, .buf waiting.bytes)]
    have allocated : withName.Holds (own ++ (waiting.node, fresh) ::
        queueCells none (before ++ request :: after)) :=
      ((represented.holds.alloc fresh).alloc (.buf packet)).alloc (.iface waiting.name)
    have live : withName.cells request.entry =
        some (.arpreq (request.cell (firstRequest none after))) :=
      allocated.live (request.entry, _) (by simp [queueCells_middle])
    obtain ⟨filled, fills, filledHolds, _⟩ := allocated.write_middle node
    have linked : filled.cells request.entry =
        some (.arpreq (request.cell (firstRequest none after))) :=
      filledHolds.live (request.entry, _) (by simp [queueCells_middle])
    rw [queueCells_middle, ← List.cons_append, ← List.append_assoc] at filledHolds
    obtain ⟨pushed, pushes, pushedHolds, _⟩ := filledHolds.write_middle
      (.arpreq ((request.push waiting).cell (firstRequest none after)))
    rw [ends_bind, ends_malloc, ends_bind, ends_malloc, ends_bind, ends_malloc, ends_bind,
      ends_readArpreq live, ends_bind, ends_writeCell fills, ends_bind,
      ends_updateArpreq linked pushes, ends_pure]
    refine ⟨before, request.push waiting, after, rfl, ⟨represented.requests.trans ?_, ?_⟩,
      fun _ => ⟨waiting, rfl, rfl, rfl⟩⟩
    · simp only [firstRequest_append]
      rfl
    · rw [queueCells_middle]
      exact pushedHolds.perm (perm_push ..)
  · rename_i empty
    exact ⟨before, request, after, rfl, represented, fun nonempty =>
      absurd (mt List.length_eq_zero_iff.mp nonempty) empty⟩

theorem represents_empty (sr : SrInstance) :
    Represents { sr, requests := none, heap := .empty } [] where
  requests := rfl
  holds := Heap.holds_nil _

theorem ends_queuereqs (queued : List (UInt32 × Bytes × Name))
    {state : HeapInstance} {queue : List WaitingRequest} (represents : Represents state queue) :
    Ends (forM queued fun call => do
        let _ ← srArpcacheQueuereq call.1 call.2.1 call.2.2) state
      (fun _ next => ∃ queue, Represents next queue) (fun _ _ => False) := by
  induction queued generalizing state queue with
  | nil => exact ⟨queue, represents⟩
  | cons call rest inductionHypothesis =>
      rw [List.forM_cons, ends_bind, ends_bind]
      refine (ends_srArpcacheQueuereq call.1 call.2.1 call.2.2 represents).mono
        (fun _ next result => ?_) (fun _ _ no => no)
      obtain ⟨before, request, after, _, represented, _⟩ := result
      exact inductionHypothesis represented

theorem ends_queuereqs_represented (queued : List (UInt32 × Bytes × Name)) (sr : SrInstance) :
    Ends (forM queued fun call => do
        let _ ← srArpcacheQueuereq call.1 call.2.1 call.2.2)
      { sr, requests := none, heap := .empty }
      (fun _ next => ∃ queue, Represents next queue) (fun _ _ => False) :=
  ends_queuereqs queued (represents_empty sr)

end Cmput313.Router.OnHeap
