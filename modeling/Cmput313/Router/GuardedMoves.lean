import Cmput313.Router.QueueOrder

/-!
# Moves and all their guards

`handle_arpreq` is called on requests that wait in the queue, and by a sweep also
on requests that it gave up itself; frames in the queue are IP frames; a mapping
is learnt from an ARP reply that was heard.  Moves with these guards are made by
the functions of a router whose queue is in order.
-/

set_option autoImplicit false

namespace Cmput313.Router

open Cmput313.Bytes Cmput313.Keyed

/-! ## Frames by their type -/

def IsDatagram (buf : Bytes) : Prop :=
  (buf.drop etherType).take 2 = bytes16 (htons ethertypeIp)

structure IsArpReply (buf : Bytes) : Prop where
  type : (buf.drop etherType).take 2 = bytes16 (htons ethertypeArp)
  op : (buf.drop arOp).take 2 = bytes16 (htons arpOpReply)

theorem length_of_word {buf : Bytes} {offset : Nat} {word : UInt16}
    (found : (buf.drop offset).take 2 = bytes16 word) : offset + 2 ≤ buf.length := by
  have length := congrArg List.length found
  rw [List.length_take, List.length_drop, bytes16_length] at length
  omega

theorem IsDatagram.length {buf : Bytes} (datagram : IsDatagram buf) : 14 ≤ buf.length :=
  length_of_word datagram

theorem IsArpReply.length {buf : Bytes} (reply : IsArpReply buf) : 14 ≤ buf.length :=
  length_of_word reply.type

theorem isDatagram_put_behind {buf : Bytes} {offset : Nat} (datagram : IsDatagram buf)
    (behind : etherType + 2 ≤ offset) (bytes : Bytes) : IsDatagram (put buf offset bytes) := by
  have long := datagram.length
  have front : ∀ frame : Bytes,
      (frame.drop etherType).take 2 = (frame.take (etherType + 2)).drop etherType := by
    intro frame
    rw [List.drop_take, Nat.add_sub_cancel_left]
  have kept : (put buf offset bytes).take (etherType + 2) = buf.take (etherType + 2) := by
    rw [put, List.append_assoc, List.take_append_of_le_length, List.take_take,
      Nat.min_eq_left behind]
    rw [List.length_take]
    exact Nat.le_min.mpr ⟨behind, long⟩
  unfold IsDatagram at datagram ⊢
  rw [front, kept, ← front, datagram]

theorem isDatagram_putAll {buf : Bytes} {writes : List (Nat × Bytes)}
    (datagram : IsDatagram buf) (fit : Fit writes buf.length)
    (before : ∀ write ∈ writes, write.1 + write.2.length ≤ etherType) :
    IsDatagram (putAll writes buf) := by
  have inside : etherType + 2 ≤ buf.length := datagram.length
  exact (take_drop_putAll (fun write member => Or.inr (before write member)) fit
    inside).trans datagram

/-! ## Requests that may be handled -/

/-- Due, and sent often enough to be given up. -/
def Expired (clock : Int) (req : SrArpreq) : Prop :=
  clock - req.sent > 1 ∧ req.timesSent ≥ 5

instance (clock : Int) (req : SrArpreq) : Decidable (Expired clock req) :=
  inferInstanceAs (Decidable (_ ∧ _))

/-- The request at the address is to be given up, or was. -/
def Spent (sr : SrInstance) (id : Nat) : Prop :=
  ∃ req ∈ sr.everyRequest, req.id = id ∧ Expired sr.clock req

/-- No packet waits with the request at the address: the process dies when it gives up a
request with packets. -/
def Emptied (sr : SrInstance) (id : Nat) : Prop :=
  ∃ req ∈ sr.everyRequest, req.id = id ∧ req.packets = []

def Held (sr : SrInstance) (id : Nat) : Prop := id ∈ sr.requestIds ∨ Spent sr id

/-- The requests have addresses of their own and wait with IP frames. -/
structure Ready (sr : SrInstance) : Prop where
  addressed : Addressed sr
  datagrams : ∀ req ∈ sr.everyRequest, ∀ packet ∈ req.packets, IsDatagram packet.buf

/-! ## Guarded moves -/

/-- Whether the queue is in order, and the mappings that were heard. -/
structure Guards where
  ready : Prop
  heard : Mac → UInt32 → Prop

/-- The same guards where no reply is heard. -/
def Guards.silent (guards : Guards) : Guards where
  ready := guards.ready
  heard := fun _ _ => False

inductive GuardedMove (guards : Guards) (sr : SrInstance) : SrInstance → Prop where
  | touch (buf : Buf) (offset size : Nat) : GuardedMove guards sr (sr.touched buf offset size)
  | note (event : Event) (isNote : event.IsNote) : GuardedMove guards sr (sr.record event)
  | send (buf : Bytes) (iface : Name) (interface : SrIf)
      (found : srGetInterface sr.ifList iface = some interface)
      (source : (buf.drop etherShost).take 6 = interface.addr.toList)
      (typed : guards.ready → IsDatagram buf ∨ IsArpReply buf) :
      GuardedMove guards sr (sr.sendPacket buf iface)
  | queue (gw : UInt32) (packet : Bytes) (iface : Name) (interface : SrIf)
      (found : srGetInterface sr.ifList iface = some interface)
      (long : 34 ≤ packet.length)
      (miss : srArpcacheLookup sr.entries gw = none)
      (typed : guards.ready → IsDatagram packet) :
      GuardedMove guards sr (sr.enqueue gw packet iface)
  | broadcast (req : SrArpreq) (packet : SrPacket) (interface : SrIf)
      (live : sr.request? req.id = some req) (queued : guards.ready → req ∈ sr.requests)
      (due : sr.clock - req.sent > 1) (left : req.timesSent < 5)
      (first : req.packets.head? = some packet)
      (found : srGetInterface sr.ifList packet.iface = some interface) :
      GuardedMove guards sr (sr.rebroadcast req interface)
  | timeOut (id : Nat) (spent : guards.ready → Spent sr id)
      (empty : guards.ready → Emptied sr id) :
      GuardedMove guards sr ((sr.record (.timedOut id)).destroy id)
  | learn (mac : Mac) (ip : UInt32) (heard : guards.heard mac ip) :
      GuardedMove guards sr (sr.learn mac ip)
  | expire :
      GuardedMove guards sr { sr with entries := expireMappings sr.entries sr.clock }

theorem GuardedMove.move {guards : Guards} {before after : SrInstance}
    (guarded : GuardedMove guards before after) : Move before after := by
  cases guarded with
  | touch buf offset size => exact .touch buf offset size
  | note event isNote => exact .note event isNote
  | send buf iface interface found source typed => exact .send buf iface interface found source
  | queue gw packet iface interface found long miss typed =>
      exact .queue gw packet iface interface found long miss
  | broadcast req packet interface live queued due left first found =>
      exact .broadcast req packet interface live due left first found
  | timeOut id spent empty => exact .timeOut id
  | learn mac ip heard => exact .learn mac ip
  | expire => exact .expire

theorem Move.guarded {guards : Guards} (unordered : ¬ guards.ready)
    (everyHeard : ∀ mac ip, guards.heard mac ip) {before after : SrInstance}
    (move : Move before after) : GuardedMove guards before after := by
  cases move with
  | touch buf offset size => exact .touch buf offset size
  | note event isNote => exact .note event isNote
  | send buf iface interface found source =>
      exact .send buf iface interface found source fun ready => absurd ready unordered
  | queue gw packet iface interface found long miss =>
      exact .queue gw packet iface interface found long miss fun ready =>
        absurd ready unordered
  | broadcast req packet interface live due left first found =>
      exact .broadcast req packet interface live (fun ready => absurd ready unordered) due
        left first found
  | timeOut id =>
      exact .timeOut id (fun ready => absurd ready unordered) fun ready => absurd ready unordered
  | learn mac ip => exact .learn mac ip (everyHeard mac ip)
  | expire => exact .expire

theorem GuardedMove.mono {guards weaker : Guards} (ready : weaker.ready → guards.ready)
    (heard : ∀ mac ip, guards.heard mac ip → weaker.heard mac ip) {before after : SrInstance}
    (guarded : GuardedMove guards before after) : GuardedMove weaker before after := by
  cases guarded with
  | touch buf offset size => exact .touch buf offset size
  | note event isNote => exact .note event isNote
  | send buf iface interface found source typed =>
      exact .send buf iface interface found source fun needed => typed (ready needed)
  | queue gw packet iface interface found long miss typed =>
      exact .queue gw packet iface interface found long miss fun needed => typed (ready needed)
  | broadcast req packet interface live queued due left first found =>
      exact .broadcast req packet interface live (fun needed => queued (ready needed)) due left
        first found
  | timeOut id spent empty =>
      exact .timeOut id (fun needed => spent (ready needed)) fun needed => empty (ready needed)
  | learn mac ip known => exact .learn mac ip (heard mac ip known)
  | expire => exact .expire

def GuardedMoves (guards : Guards) (start : SrInstance) : SrInstance → Prop :=
  Relation.ReflTransGen (GuardedMove guards) start

section GuardedMoves

variable {guards : Guards} {start sr : SrInstance}

theorem GuardedMoves.refl (guards : Guards) (sr : SrInstance) : GuardedMoves guards sr sr :=
  Relation.ReflTransGen.refl

theorem GuardedMoves.trans {middle : SrInstance} (first : GuardedMoves guards start middle)
    (second : GuardedMoves guards middle sr) : GuardedMoves guards start sr :=
  Relation.ReflTransGen.trans first second

theorem GuardedMoves.next (before : GuardedMoves guards start sr) {sr' : SrInstance}
    (guarded : GuardedMove guards sr sr') : GuardedMoves guards start sr' :=
  Relation.ReflTransGen.tail before guarded

theorem GuardedMoves.preserves (guarded : GuardedMoves guards start sr)
    (invariant : SrInstance → Prop) (initially : invariant start)
    (preserved : ∀ before after, invariant before → GuardedMove guards before after →
      invariant after) : invariant sr := by
  induction guarded with
  | refl => exact initially
  | tail _ move inductionHypothesis =>
      exact preserved _ _ inductionHypothesis move

theorem GuardedMoves.moves (guarded : GuardedMoves guards start sr) : Moves start sr :=
  guarded.preserves (Moves start) (Moves.refl start) fun _ _ before move => before.next move.move

theorem Moves.guarded (unordered : ¬ guards.ready)
    (everyHeard : ∀ mac ip, guards.heard mac ip) (moves : Moves start sr) :
    GuardedMoves guards start sr :=
  moves.preserves (GuardedMoves guards start) Relation.ReflTransGen.refl
    fun _ _ before move => before.next (move.guarded unordered everyHeard)

theorem GuardedMoves.mono {weaker : Guards} (guarded : GuardedMoves guards start sr)
    (ready : weaker.ready → guards.ready)
    (heard : ∀ mac ip, guards.heard mac ip → weaker.heard mac ip) :
    GuardedMoves weaker start sr :=
  guarded.preserves (GuardedMoves weaker start) Relation.ReflTransGen.refl
    fun _ _ before move => before.next (move.mono ready heard)

theorem GuardedMoves.of_silent (silent : GuardedMoves guards.silent start sr) :
    GuardedMoves guards start sr :=
  silent.mono id fun _ _ impossible => False.elim impossible

end GuardedMoves

/-! ## What guarded moves keep -/

theorem ready_of_requests {before after : SrInstance} (ready : Ready before)
    (addressed : Addressed after)
    (same : after.everyRequest ⊆ before.everyRequest) : Ready after where
  addressed := addressed
  datagrams := fun req member => ready.datagrams req (same member)

theorem ready_enqueue {sr : SrInstance} (ready : Ready sr) (gw : UInt32) {packet : Bytes}
    (iface : Name) (datagram : IsDatagram packet) : Ready (sr.enqueue gw packet iface) where
  addressed := addressed_enqueue ready.addressed gw packet iface
  datagrams := by
    have old : ∀ req ∈ (sr.withRequest gw).1.everyRequest, ∀ waiting ∈ req.packets,
        IsDatagram waiting.buf := by
      rcases withRequest_cases sr gw with ⟨_, _, _, found⟩ | ⟨_, created⟩
      · rw [found]
        exact ready.datagrams
      · rw [created]
        intro req member
        rcases List.mem_cons.mp member with rfl | older
        · exact fun _ none => absurd none List.not_mem_nil
        · exact ready.datagrams req older
    intro req member waiting waits
    rw [SrInstance.enqueue, everyRequest_record, everyRequest_updateRequest] at member
    obtain ⟨previous, existed, ⟨_, rfl⟩ | ⟨_, rfl⟩⟩ := mem_update member
    · rcases List.mem_cons.mp waits with rfl | older
      · exact datagram
      · exact old previous existed waiting older
    · exact old req existed waiting waits

theorem GuardedMove.preserves_ready {guards : Guards} (ordered : guards.ready)
    {before after : SrInstance} (ready : Ready before)
    (guarded : GuardedMove guards before after) : Ready after := by
  have addressed := guarded.move.preserves_addressed ready.addressed
  have unchanged := fun same => ready_of_requests ready addressed same
  cases guarded with
  | touch buf offset size => exact unchanged (List.Subset.refl _)
  | note event isNote => exact unchanged (List.Subset.refl _)
  | send buf iface interface found source typed => exact unchanged (List.Subset.refl _)
  | queue gw packet iface interface found long miss typed =>
      exact ready_enqueue ready gw iface (typed ordered)
  | broadcast req packet interface live queued due left first found =>
      refine ⟨addressed, ?_⟩
      intro other member
      rw [SrInstance.rebroadcast, everyRequest_updateRequest] at member
      obtain ⟨old, existed, ⟨_, rfl⟩ | ⟨_, rfl⟩⟩ := mem_update member
      · exact ready.datagrams old existed
      · exact ready.datagrams other existed
  | timeOut id spent empty =>
      rcases destroy_cases (before.record (.timedOut id)) id with
        ⟨req, member, _, unlinked⟩ | ⟨_, same⟩
      · rw [unlinked] at unchanged ⊢
        exact unchanged
          (everyRequest_unlink (distinct_requests ready.addressed.requests) member).subset
      · rw [same] at unchanged ⊢
        exact unchanged (List.Subset.refl _)
  | learn mac ip heard =>
      rcases learn_cases before mac ip with ⟨req, member, _, learned⟩ | ⟨_, learned⟩
      · rw [learned] at unchanged ⊢
        exact unchanged
          (everyRequest_unlink (distinct_requests ready.addressed.requests) member).subset
      · rw [learned] at unchanged ⊢
        exact unchanged (List.Subset.refl _)
  | expire => exact unchanged (List.Subset.refl _)

theorem GuardedMoves.preserves_ready {guards : Guards} {start sr : SrInstance}
    (guarded : GuardedMoves guards start sr) (ready : guards.ready → Ready start) :
    guards.ready → Ready sr :=
  fun ordered => guarded.preserves Ready (ready ordered) fun _ _ before move =>
    move.preserves_ready ordered before

theorem spent_updateRequest {sr : SrInstance} {id : Nat} (spent : Spent sr id) (other : Nat)
    (change : SrArpreq → SrArpreq) (keepsId : ∀ req, (change req).id = req.id)
    (keepsExpired : ∀ req ∈ sr.everyRequest, Expired sr.clock req → req.id = other →
      Expired sr.clock (change req)) :
    Spent (sr.updateRequest other change) id := by
  obtain ⟨req, member, rfl, expired⟩ := spent
  unfold Spent
  rw [everyRequest_updateRequest]
  refine ⟨_, List.mem_map_of_mem member, ?_⟩
  by_cases same : req.id = other
  · rw [if_pos same]
    exact ⟨keepsId req, keepsExpired req member expired same⟩
  · rw [if_neg same]
    exact ⟨rfl, expired⟩

theorem Spent.of_requests {before after : SrInstance} {id : Nat} (spent : Spent before id)
    (same : before.everyRequest ⊆ after.everyRequest) (clock : after.clock = before.clock) :
    Spent after id := by
  obtain ⟨req, member, own, expired⟩ := spent
  exact ⟨req, same member, own, clock ▸ expired⟩

/-- A spent request stays so: only a broadcast changes its time, and it has none left. -/
theorem Move.preserves_spent {before after : SrInstance} (move : Move before after)
    (addressed : Addressed before) {id : Nat} (spent : Spent before id) : Spent after id := by
  cases move with
  | touch buf offset size => exact spent
  | note event isNote => exact spent
  | send buf iface interface found source => exact spent
  | queue gw packet iface interface found long miss =>
      have created : Spent (before.withRequest gw).1 id := by
        rcases withRequest_cases before gw with ⟨_, _, _, same⟩ | ⟨_, same⟩
        · rw [same]
          exact spent
        · rw [same]
          exact spent.of_requests (List.subset_cons_self _ _) rfl
      exact spent_updateRequest created _ _ (fun _ => rfl) fun _ _ expired _ => expired
  | broadcast req packet interface live due left first found =>
      have broadcast : Spent ((before.record (.broadcast req.id before.clock)).sendPacket
          (arpRequestFrame interface req.ip) interface.name) id := spent
      apply spent_updateRequest broadcast req.id
        (fun req => { req with sent := before.clock, timesSent := req.timesSent + 1 })
        (fun _ => rfl)
      intro other member expired same
      have queued := (addressed.request?_eq_some_iff.mp live).1
      obtain rfl := addressed.requests.eq_of_key member queued same
      exact absurd expired.2 (Nat.not_le.mpr left)
  | timeOut other =>
      rcases destroy_cases (before.record (.timedOut other)) other with
        ⟨req, member, _, unlinked⟩ | ⟨_, same⟩
      · rw [unlinked]
        exact spent.of_requests
          (everyRequest_unlink (distinct_requests addressed.requests) member).symm.subset rfl
      · rw [same]
        exact spent
  | learn mac ip =>
      rcases learn_cases before mac ip with ⟨req, member, _, learned⟩ | ⟨_, learned⟩
      · rw [learned]
        exact spent.of_requests
          (everyRequest_unlink (distinct_requests addressed.requests) member).symm.subset rfl
      · rw [learned]
        exact spent
  | expire => exact spent

theorem Moves.preserves_spent {start sr : SrInstance} (moves : Moves start sr)
    (addressed : Addressed start) {id : Nat} (spent : Spent start id) : Spent sr id := by
  have both := moves.preserves (fun sr => Addressed sr ∧ Spent sr id) ⟨addressed, spent⟩
    fun _ _ before move =>
      ⟨move.preserves_addressed before.1, move.preserves_spent before.1 before.2⟩
  exact both.2

theorem Held.mem_requests {sr : SrInstance} {req : SrArpreq} (held : Held sr req.id)
    (addressed : Addressed sr) (live : sr.request? req.id = some req)
    (left : req.timesSent < 5) : req ∈ sr.requests := by
  have exists_ := (addressed.request?_eq_some_iff.mp live).1
  rcases held with queued | ⟨other, member, same, expired⟩
  · obtain ⟨other, member, same⟩ := List.mem_map.mp queued
    obtain rfl := addressed.requests.eq_of_key (mem_everyRequest_of_mem member) exists_ same
    exact member
  · obtain rfl := addressed.requests.eq_of_key member exists_ same
    exact absurd expired.2 (Nat.not_le.mpr left)

/-- Where no reply is heard, a request leaves the queue only when it is given up. -/
theorem GuardedMove.preserves_held {guards : Guards} (ordered : guards.ready)
    (silent : ∀ mac ip, ¬ guards.heard mac ip) {before after : SrInstance}
    (addressed : Addressed before) (guarded : GuardedMove guards before after) {id : Nat}
    (held : Held before id) : Held after id := by
  rcases held with queued | spent
  · cases guarded with
    | touch buf offset size => exact Or.inl queued
    | note event isNote => exact Or.inl queued
    | send buf iface interface found source typed => exact Or.inl queued
    | queue gw packet iface interface found long miss typed =>
        left
        rw [requestIds_enqueue]
        rcases withRequest_cases before gw with ⟨_, _, _, same⟩ | ⟨_, same⟩
        · rw [same]
          exact queued
        · rw [same]
          exact List.mem_cons_of_mem _ queued
    | broadcast req packet interface live waits due left first found =>
        left
        have ids : (before.rebroadcast req interface).requestIds = before.requestIds :=
          map_update SrArpreq.id fun _ => rfl
        exact ids ▸ queued
    | timeOut other spent empty =>
        by_cases same : id = other
        · have recorded : Spent (before.record (.timedOut other)) other := spent ordered
          exact Or.inr (same ▸ (Move.timeOut other).preserves_spent addressed recorded)
        · left
          obtain ⟨req, member, rfl⟩ := List.mem_map.mp queued
          rcases destroy_cases (before.record (.timedOut other)) other with
            ⟨gone, _, rfl, unlinked⟩ | ⟨_, unchanged⟩
          · rw [unlinked]
            exact List.mem_map_of_mem (List.mem_filter.mpr ⟨member, by simpa using same⟩)
          · rw [unchanged]
            exact List.mem_map_of_mem member
    | learn mac ip heard => exact absurd heard (silent mac ip)
    | expire => exact Or.inl queued
  · exact Or.inr (guarded.move.preserves_spent addressed spent)

theorem GuardedMoves.preserves_held {guards : Guards} {start sr : SrInstance}
    (guarded : GuardedMoves guards start sr) (silent : ∀ mac ip, ¬ guards.heard mac ip)
    (ordered : guards.ready) (addressed : Addressed start) {id : Nat} (held : Held start id) :
    Held sr id := by
  have both := guarded.preserves (fun sr => Addressed sr ∧ Held sr id) ⟨addressed, held⟩
    fun _ _ before move => ⟨move.move.preserves_addressed before.1,
      move.preserves_held ordered silent before.1 before.2⟩
  exact both.2

end Cmput313.Router
