import Cmput313.Router.Packets
import Mathlib.Logic.Relation

/-!
# What one step of the router can do

Every function of the router is a sequence of `Move`s.  A move carries the
guards under which the code makes it, so that an invariant of the router is an
invariant of the moves.
-/

set_option autoImplicit false

namespace Cmput313.Router

open Cmput313.Bytes Cmput313.Program

/-! ## The effects of the queue and send functions -/

def sendEvents (ifList : List SrIf) (buf : Bytes) (iface : Name) : List Event :=
  .sendPacket buf iface ::
    if sizeofEthernetHdr ≤ buf.length ∧
        srEtherAddrsMatchInterface ifList buf iface = true then
      [.wire (packetMessage buf iface)]
    else []

def SrInstance.sendPacket (sr : SrInstance) (buf : Bytes) (iface : Name) :
    SrInstance :=
  { sr with trace := sr.trace ++ sendEvents sr.ifList buf iface }

/-- The queue with a request for `ip`, and that request's address. -/
def SrInstance.withRequest (sr : SrInstance) (ip : UInt32) : SrInstance × Nat :=
  match sr.requests.find? fun req => req.ip = ip with
  | some req => (sr, req.id)
  | none =>
      ({ sr with
          nextId := sr.nextId + 1
          requests :=
            { id := sr.nextId, ip, sent := 0, timesSent := 0, packets := [] } ::
              sr.requests },
        sr.nextId)

def SrArpreq.push (req : SrArpreq) (packet : SrPacket) : SrArpreq :=
  { req with packets := packet :: req.packets }

def SrInstance.enqueue (sr : SrInstance) (ip : UInt32) (packet : Bytes)
    (iface : Name) : SrInstance :=
  let found := sr.withRequest ip
  let waiting : SrPacket :=
    { id := found.1.nextId, buf := packet, iface := strncpy srIfaceNamelen iface }
  (({ found.1 with nextId := found.1.nextId + 1 }).updateRequest found.2
    fun req => req.push waiting).record
      (.queued ip found.2 found.1.nextId packet iface)

def SrInstance.destroy (sr : SrInstance) (id : Nat) : SrInstance :=
  match sr.requests.find? fun req => req.id = id with
  | some req => sr.unlink req
  | none => sr

def SrInstance.rebroadcast (sr : SrInstance) (req : SrArpreq) (interface : SrIf) :
    SrInstance :=
  (((sr.record (.broadcast req.id sr.clock)).sendPacket
    (arpRequestFrame interface req.ip) interface.name).updateRequest req.id
      fun req => { req with sent := sr.clock, timesSent := req.timesSent + 1 })

/-- An ARP reply's mapping stored and its request unlinked. -/
def SrInstance.learn (sr : SrInstance) (mac : Mac) (ip : UInt32) : SrInstance :=
  match sr.requests.find? fun req => req.ip = ip with
  | some req =>
      ({ sr.unlink req with
          entries := insertMapping sr.entries mac ip sr.clock }).record
        (.resolved req.id mac)
  | none => { sr with entries := insertMapping sr.entries mac ip sr.clock }

/-- Events that are logged alone. -/
def Event.IsNote : Event → Prop
  | .icmp .. => True
  | .swept .. => True
  | _ => False

inductive Move (sr : SrInstance) : SrInstance → Prop where
  | touch (buf : Buf) (offset size : Nat) : Move sr (sr.touched buf offset size)
  | note (event : Event) (isNote : event.IsNote) : Move sr (sr.record event)
  | send (buf : Bytes) (iface : Name) (interface : SrIf)
      (found : srGetInterface sr.ifList iface = some interface)
      (source : (buf.drop etherShost).take 6 = interface.addr.toList) :
      Move sr (sr.sendPacket buf iface)
  | queue (gw : UInt32) (packet : Bytes) (iface : Name) (interface : SrIf)
      (found : srGetInterface sr.ifList iface = some interface)
      (long : 34 ≤ packet.length)
      (miss : srArpcacheLookup sr.entries gw = none) :
      Move sr (sr.enqueue gw packet iface)
  | broadcast (req : SrArpreq) (packet : SrPacket) (interface : SrIf)
      (live : sr.request? req.id = some req)
      (due : sr.clock - req.sent > 1) (left : req.timesSent < 5)
      (first : req.packets.head? = some packet)
      (found : srGetInterface sr.ifList packet.iface = some interface) :
      Move sr (sr.rebroadcast req interface)
  | timeOut (id : Nat) : Move sr ((sr.record (.timedOut id)).destroy id)
  | learn (mac : Mac) (ip : UInt32) : Move sr (sr.learn mac ip)
  | expire :
      Move sr { sr with entries := expireMappings sr.entries sr.clock }

/-! ## What no move changes -/

/-- The configuration and the clock stay, the logs only grow. -/
structure Grows (before after : SrInstance) : Prop where
  ifList : after.ifList = before.ifList
  routingTable : after.routingTable = before.routingTable
  clock : after.clock = before.clock
  nextId : before.nextId ≤ after.nextId
  trace : before.trace <+: after.trace
  accesses : before.accesses <+: after.accesses

theorem Grows.refl (sr : SrInstance) : Grows sr sr :=
  ⟨rfl, rfl, rfl, Nat.le_refl _, List.prefix_rfl, List.prefix_rfl⟩

theorem Grows.trans {first second third : SrInstance} (left : Grows first second)
    (right : Grows second third) : Grows first third where
  ifList := right.ifList.trans left.ifList
  routingTable := right.routingTable.trans left.routingTable
  clock := right.clock.trans left.clock
  nextId := Nat.le_trans left.nextId right.nextId
  trace := left.trace.trans right.trace
  accesses := left.accesses.trans right.accesses

theorem grows_record (sr : SrInstance) (event : Event) : Grows sr (sr.record event) :=
  { Grows.refl sr with trace := List.prefix_append _ _ }

theorem grows_withRequest (sr : SrInstance) (ip : UInt32) :
    Grows sr (sr.withRequest ip).1 := by
  unfold SrInstance.withRequest
  split
  · exact Grows.refl sr
  · exact { Grows.refl sr with nextId := Nat.le_succ _ }

theorem grows_enqueue (sr : SrInstance) (ip : UInt32) (packet : Bytes) (iface : Name) :
    Grows sr (sr.enqueue ip packet iface) :=
  let created := grows_withRequest sr ip
  { created with
    nextId := Nat.le_succ_of_le created.nextId
    trace := created.trace.trans (List.prefix_append _ _) }

theorem grows_destroy (sr : SrInstance) (id : Nat) : Grows sr (sr.destroy id) := by
  unfold SrInstance.destroy
  split
  · exact { Grows.refl sr with }
  · exact Grows.refl sr

theorem grows_learn (sr : SrInstance) (mac : Mac) (ip : UInt32) :
    Grows sr (sr.learn mac ip) := by
  unfold SrInstance.learn
  split
  · exact { Grows.refl sr with trace := List.prefix_append _ _ }
  · exact { Grows.refl sr with }

/-! ## The events of the longer moves -/

theorem trace_withRequest (sr : SrInstance) (ip : UInt32) :
    (sr.withRequest ip).1.trace = sr.trace := by
  unfold SrInstance.withRequest
  split <;> rfl

theorem trace_enqueue (sr : SrInstance) (ip : UInt32) (packet : Bytes) (iface : Name) :
    (sr.enqueue ip packet iface).trace = sr.trace ++
      [.queued ip (sr.withRequest ip).2 (sr.withRequest ip).1.nextId packet iface] := by
  rw [← trace_withRequest sr ip]
  rfl

theorem trace_destroy (sr : SrInstance) (id : Nat) : (sr.destroy id).trace = sr.trace := by
  unfold SrInstance.destroy
  split <;> rfl

theorem trace_rebroadcast (sr : SrInstance) (req : SrArpreq) (interface : SrIf) :
    (sr.rebroadcast req interface).trace = sr.trace ++ .broadcast req.id sr.clock ::
      sendEvents sr.ifList (arpRequestFrame interface req.ip) interface.name := by
  show (sr.trace ++ [.broadcast req.id sr.clock]) ++ sendEvents _ _ _ = _
  rw [List.append_assoc]
  rfl

def learnEvents (sr : SrInstance) (mac : Mac) (ip : UInt32) : List Event :=
  match sr.requests.find? fun req => req.ip = ip with
  | some req => [.resolved req.id mac]
  | none => []

theorem trace_learn (sr : SrInstance) (mac : Mac) (ip : UInt32) :
    (sr.learn mac ip).trace = sr.trace ++ learnEvents sr mac ip := by
  unfold SrInstance.learn learnEvents
  split
  · rfl
  · exact (List.append_nil _).symm

theorem Move.grows {before after : SrInstance} (move : Move before after) :
    Grows before after := by
  cases move with
  | touch buf offset size =>
      exact { Grows.refl before with accesses := List.prefix_append _ _ }
  | note event isNote => exact grows_record before event
  | send buf iface interface found source =>
      exact { Grows.refl before with trace := List.prefix_append _ _ }
  | queue gw packet iface interface found long miss =>
      exact grows_enqueue before gw packet iface
  | broadcast req packet interface live due left first found =>
      exact { Grows.refl before with
        trace := trace_rebroadcast before req interface ▸ List.prefix_append _ _ }
  | timeOut id => exact (grows_record before _).trans (grows_destroy _ id)
  | learn mac ip => exact grows_learn before mac ip
  | expire => exact { Grows.refl before with }

def Moves (start : SrInstance) : SrInstance → Prop :=
  Relation.ReflTransGen Move start

theorem Moves.refl (sr : SrInstance) : Moves sr sr := Relation.ReflTransGen.refl

theorem Moves.next {start sr sr' : SrInstance} (before : Moves start sr)
    (move : Move sr sr') : Moves start sr' :=
  Relation.ReflTransGen.tail before move

/-- Induction over moves: what every move preserves, a run of moves does. -/
theorem Moves.preserves {start sr : SrInstance} (moves : Moves start sr)
    (invariant : SrInstance → Prop) (initially : invariant start)
    (preserved : ∀ before after, invariant before → Move before after →
      invariant after) : invariant sr := by
  induction moves with
  | refl => exact initially
  | tail _ move inductionHypothesis =>
      exact preserved _ _ inductionHypothesis move

theorem Moves.grows {start sr : SrInstance} (moves : Moves start sr) :
    Grows start sr :=
  moves.preserves (Grows start) (Grows.refl start) fun _ _ before move => before.trans move.grows

/-! ## The programs have these effects -/

section Effects

variable (sr : SrInstance) (stopped : Fault → SrInstance → Prop)

theorem ends_srSendPacket (buf : Bytes) (iface : Name)
    (returned : Int → SrInstance → Prop)
    (sent : ∀ value, returned value (sr.sendPacket buf iface)) :
    Ends (srSendPacket buf iface) sr returned stopped := by
  simp only [SrInstance.sendPacket, sendEvents, ← Nat.not_lt] at sent
  simp only [srSendPacket, ends_bind, ends_log, ends_get, ends_ite, ends_pure]
  by_cases short : buf.length < sizeofEthernetHdr
  · simpa [short, SrInstance.record] using sent (-1)
  · by_cases matching : srEtherAddrsMatchInterface sr.ifList buf iface = true
    · simpa [short, matching, SrInstance.record] using sent 0
    · simpa [short, matching, SrInstance.record] using sent (-1)

@[simp] theorem ends_findOrCreateRequest (ip : UInt32)
    (returned : Nat → SrInstance → Prop) :
    Ends (findOrCreateRequest ip) sr returned stopped ↔
      returned (sr.withRequest ip).2 (sr.withRequest ip).1 := by
  simp only [findOrCreateRequest, SrInstance.withRequest, ends_bind, ends_get]
  cases sr.requests.find? fun req => req.ip = ip with
  | none => rfl
  | some req => rfl

theorem ends_srArpcacheQueuereq {packet : Bytes} (nonempty : packet.length ≠ 0)
    (ip : UInt32) (iface : Name) (returned : Nat → SrInstance → Prop) :
    Ends (srArpcacheQueuereq ip packet iface) sr returned stopped ↔
      returned (sr.withRequest ip).2 (sr.enqueue ip packet iface) := by
  simp only [srArpcacheQueuereq, ends_bind, ends_findOrCreateRequest, nonempty,
    ne_eq, not_false_eq_true, if_true, ends_allocate, ends_modify, ends_log,
    ends_pure]
  rfl

@[simp] theorem ends_srArpreqDestroy (id : Nat)
    (returned : Unit → SrInstance → Prop) :
    Ends (srArpreqDestroy id) sr returned stopped ↔
      returned () (sr.destroy id) := Iff.rfl

end Effects

end Cmput313.Router
