import Cmput313.Router.Emission

/-!
# A queued frame is sent as a direct send would have sent it

A frame that misses the ARP table waits in the queue.  It stays there unchanged
until its request is answered or given up, and the answer sends what a hit would
have sent in its place: the same bytes, with the same Ethernet addresses, through
the same interface.
-/

set_option autoImplicit false

namespace Cmput313.Router

open Cmput313.Bytes Cmput313.Keyed Cmput313.Program

/-! ## The first effect of a program -/

/-- After notes only, the program's first event. -/
def FirstEffect (program : Sr Unit) (sr : SrInstance) (event : Event) : Prop :=
  ∃ notes rest, (finalState program sr).trace = sr.trace ++ (notes ++ event :: rest) ∧
    ∀ note ∈ notes, note.IsNote

theorem first_effect_unique {event other : Event} (effect : ¬ event.IsNote)
    (otherEffect : ¬ other.IsNote) :
    ∀ {notes otherNotes rest otherRest : List Event},
      (∀ note ∈ notes, note.IsNote) → (∀ note ∈ otherNotes, note.IsNote) →
      notes ++ event :: rest = otherNotes ++ other :: otherRest → event = other := by
  intro notes
  induction notes with
  | nil =>
      intro otherNotes rest otherRest _ quiet same
      cases otherNotes with
      | nil => exact (List.cons.inj same).1
      | cons head tail =>
          have first := (List.cons.inj same).1
          exact absurd (first ▸ quiet head (List.mem_cons_self ..)) effect
  | cons head tail inductionHypothesis =>
      intro otherNotes rest otherRest quiet otherQuiet same
      cases otherNotes with
      | nil =>
          have first := (List.cons.inj same).1
          exact absurd (first ▸ quiet head (List.mem_cons_self ..)) otherEffect
      | cons otherHead otherTail =>
          exact inductionHypothesis
            (fun note member => quiet note (List.mem_cons_of_mem _ member))
            (fun note member => otherQuiet note (List.mem_cons_of_mem _ member))
            (List.cons.inj same).2

theorem FirstEffect.unique {program : Sr Unit} {sr : SrInstance} {event other : Event}
    (first : FirstEffect program sr event) (effect : ¬ event.IsNote)
    (otherFirst : FirstEffect program sr other) (otherEffect : ¬ other.IsNote) :
    event = other := by
  obtain ⟨notes, rest, trace, quiet⟩ := first
  obtain ⟨otherNotes, otherRest, otherTrace, otherQuiet⟩ := otherFirst
  rw [trace, List.append_cancel_left_eq] at otherTrace
  exact first_effect_unique effect otherEffect quiet otherQuiet otherTrace

theorem firstEffect_of_trace {program : Sr Unit} {sr after : SrInstance}
    (noted : Noted sr after) {event : Event} {rest : List Event}
    (trace : (finalState program sr).trace = after.trace ++ event :: rest) :
    FirstEffect program sr event := by
  obtain ⟨notes, afterTrace, quiet⟩ := noted.trace
  refine ⟨notes, rest, ?_, quiet⟩
  rw [trace, afterTrace, List.append_assoc]

theorem FirstEffect.mem {program : Sr Unit} {sr : SrInstance} {event : Event}
    (first : FirstEffect program sr event) :
    event ∈ (finalState program sr).trace.drop sr.trace.length := by
  obtain ⟨notes, rest, trace, _⟩ := first
  rw [trace, List.drop_left]
  exact List.mem_append_right _ (List.mem_cons_self ..)

theorem FirstEffect.isNote {program : Sr Unit} {sr after : SrInstance}
    (noted : Noted sr after) {event : Event} (first : FirstEffect program sr event)
    (trace : (finalState program sr).trace = after.trace) : event.IsNote := by
  obtain ⟨notes, afterTrace, quiet⟩ := noted.trace
  obtain ⟨firstNotes, rest, firstTrace, _⟩ := first
  rw [trace, afterTrace, List.append_cancel_left_eq] at firstTrace
  refine quiet event ?_
  rw [firstTrace]
  exact List.mem_append_right _ (List.mem_cons_self ..)

/-! ## What may happen in between -/

def Passes : SrInstance → SrInstance → Prop :=
  Relation.ReflTransGen fun before after =>
    Move before after ∨ ∃ now, before.clock ≤ now ∧ after = before.atTime now

theorem Moves.passes {before after : SrInstance} (moves : Moves before after) :
    Passes before after :=
  Relation.ReflTransGen.mono (fun _ _ => Or.inl) _ _ moves

theorem Step.passes {before after : SrInstance} (step : Step before after) :
    Passes before after := by
  obtain ⟨now, later, moves⟩ := step.moves
  exact Relation.ReflTransGen.head (Or.inr ⟨now, later, rfl⟩) moves.passes

theorem Passes.preserves {start sr : SrInstance} (passes : Passes start sr)
    (invariant : SrInstance → Prop) (initially : invariant start)
    (clock : ∀ sr now, invariant sr → invariant (sr.atTime now))
    (preserved : ∀ before after, invariant before → Move before after →
      invariant after) : invariant sr := by
  induction passes with
  | refl => exact initially
  | tail _ step inductionHypothesis =>
      rcases step with move | ⟨now, _, rfl⟩
      · exact preserved _ _ inductionHypothesis move
      · exact clock _ now inductionHypothesis

theorem Passes.preserves_queueInvariant {start sr : SrInstance}
    (passes : Passes start sr) (invariant : QueueInvariant start) : QueueInvariant sr :=
  passes.preserves QueueInvariant invariant (fun _ now before => queueInvariant_atTime before now)
    fun _ _ before move => move.preserves_queueInvariant before

theorem Passes.ifList {start sr : SrInstance} (passes : Passes start sr) :
    sr.ifList = start.ifList :=
  passes.preserves (fun sr => sr.ifList = start.ifList) rfl
    (fun _ _ same => same) fun _ _ same move => move.grows.ifList.trans same

theorem Passes.trace {start sr : SrInstance} (passes : Passes start sr) :
    start.trace <+: sr.trace :=
  passes.preserves (fun sr => start.trace <+: sr.trace) List.prefix_rfl
    (fun _ _ before => before) fun _ _ before move => before.trans move.grows.trace

def Event.Removes (request : Nat) : Event → Prop
  | .timedOut id => id = request
  | .resolved id _ => id = request
  | _ => False

instance (request : Nat) : DecidablePred (Event.Removes request)
  | .timedOut id => inferInstanceAs (Decidable (id = request))
  | .resolved id _ => inferInstanceAs (Decidable (id = request))
  | .sendPacket .. => isFalse fun impossible => impossible
  | .wire _ => isFalse fun impossible => impossible
  | .icmp .. => isFalse fun impossible => impossible
  | .queued .. => isFalse fun impossible => impossible
  | .broadcast .. => isFalse fun impossible => impossible
  | .swept .. => isFalse fun impossible => impossible

/-- The packet waits in the request for its gateway. -/
def Waits (sr : SrInstance) (request : Nat) (gw : UInt32) (waiting : SrPacket) : Prop :=
  ∃ req ∈ sr.requests, req.id = request ∧ req.ip = gw ∧ waiting ∈ req.packets

theorem waits_of_requests {before after : SrInstance} (same : after.requests = before.requests)
    {request : Nat} {gw : UInt32} {waiting : SrPacket}
    (waits : Waits before request gw waiting) : Waits after request gw waiting := by
  obtain ⟨req, member, rest⟩ := waits
  exact ⟨req, same ▸ member, rest⟩

theorem waits_updateRequest {sr : SrInstance} {request : Nat} {gw : UInt32}
    {waiting : SrPacket} (waits : Waits sr request gw waiting) (id : Nat)
    {change : SrArpreq → SrArpreq} (keepsId : ∀ req, (change req).id = req.id)
    (keepsIp : ∀ req, (change req).ip = req.ip)
    (keepsPackets : ∀ req, req.packets ⊆ (change req).packets) :
    Waits (sr.updateRequest id change) request gw waiting := by
  obtain ⟨req, member, sameId, sameIp, inside⟩ := waits
  refine ⟨if req.id = id then change req else req, ?_, ?_⟩
  · exact List.mem_map_of_mem (f := fun req => if req.id = id then change req else req)
      member
  · split
    · exact ⟨(keepsId req).trans sameId, (keepsIp req).trans sameIp,
        keepsPackets req inside⟩
    · exact ⟨sameId, sameIp, inside⟩

theorem waits_withRequest {sr : SrInstance} {request : Nat} {gw : UInt32}
    {waiting : SrPacket} (waits : Waits sr request gw waiting) (ip : UInt32) :
    Waits (sr.withRequest ip).1 request gw waiting := by
  rcases withRequest_cases sr ip with ⟨_, _, _, found⟩ | ⟨_, created⟩
  · rw [found]
    exact waits
  · rw [created]
    obtain ⟨req, member, rest⟩ := waits
    exact ⟨req, List.mem_cons_of_mem _ member, rest⟩

theorem waits_unlink {sr : SrInstance} {request : Nat} {gw : UInt32}
    {waiting : SrPacket} (waits : Waits sr request gw waiting) {left : SrArpreq}
    (other : left.id ≠ request) : Waits (sr.unlink left) request gw waiting := by
  obtain ⟨req, member, sameId, rest⟩ := waits
  refine ⟨req, ?_, sameId, rest⟩
  refine List.mem_filter.mpr ⟨member, ?_⟩
  simpa [sameId] using Ne.symm other

theorem Move.waits_or_removes {before after : SrInstance} (move : Move before after)
    {request : Nat} {gw : UInt32} {waiting : SrPacket}
    (waits : Waits before request gw waiting) :
    Waits after request gw waiting ∨
      ∃ event ∈ after.trace.drop before.trace.length, event.Removes request := by
  cases move with
  | touch buf offset size => exact Or.inl (waits_of_requests rfl waits)
  | note event isNote => exact Or.inl (waits_of_requests rfl waits)
  | send buf iface interface found source => exact Or.inl (waits_of_requests rfl waits)
  | queue ip packet iface interface found long miss =>
      refine Or.inl (waits_updateRequest ?_ _ (fun _ => rfl) (fun _ => rfl) fun _ =>
        List.subset_cons_self _ _)
      exact waits_of_requests rfl (waits_withRequest waits ip)
  | broadcast req packet interface live due left first found =>
      refine Or.inl (waits_updateRequest ?_ _ (fun _ => rfl) (fun _ => rfl) fun _ =>
        List.Subset.refl _)
      exact waits_of_requests rfl waits
  | timeOut id =>
      by_cases own : id = request
      · refine Or.inr ⟨.timedOut id, ?_, own⟩
        rw [trace_destroy, SrInstance.record, List.drop_left]
        exact List.mem_singleton_self _
      · refine Or.inl ?_
        rcases destroy_cases (before.record (.timedOut id)) id with
          ⟨left, _, sameId, unlinked⟩ | ⟨_, same⟩
        · rw [unlinked]
          exact waits_unlink (waits_of_requests rfl waits) (sameId ▸ own)
        · rw [same]
          exact waits_of_requests rfl waits
  | learn mac ip =>
      rcases learn_cases before mac ip with ⟨left, _, _, learned⟩ | ⟨_, learned⟩
      · rw [learned]
        by_cases own : left.id = request
        · refine Or.inr ⟨.resolved left.id mac, ?_, own⟩
          rw [SrInstance.record]
          show _ ∈ (before.trace ++ [Event.resolved left.id mac]).drop before.trace.length
          rw [List.drop_left]
          exact List.mem_singleton_self _
        · exact Or.inl (waits_of_requests rfl (waits_unlink waits own))
      · rw [learned]
        exact Or.inl (waits_of_requests rfl waits)
  | expire => exact Or.inl (waits_of_requests rfl waits)

theorem mem_drop_of_grown {start middle last : List Event} (first : start <+: middle)
    (second : middle <+: last) {event : Event}
    (member : event ∈ last.drop middle.length ∨ event ∈ middle.drop start.length) :
    event ∈ last.drop start.length := by
  obtain ⟨new, rfl⟩ := first
  obtain ⟨newer, rfl⟩ := second
  rw [List.drop_left, List.drop_left] at member
  rw [List.append_assoc, List.drop_left]
  exact List.mem_append.mpr member.symm

theorem Passes.waits_or_removes {start sr : SrInstance} (passes : Passes start sr)
    {request : Nat} {gw : UInt32} {waiting : SrPacket}
    (waits : Waits start request gw waiting) :
    Waits sr request gw waiting ∨
      ∃ event ∈ sr.trace.drop start.trace.length, event.Removes request := by
  induction passes with
  | refl => exact Or.inl waits
  | @tail middle last before step inductionHypothesis =>
      rcases step with move | ⟨now, _, rfl⟩
      · rcases inductionHypothesis with still | ⟨event, member, removes⟩
        · rcases move.waits_or_removes still with after | ⟨event, member, removes⟩
          · exact Or.inl after
          · exact Or.inr ⟨event, mem_drop_of_grown (Passes.trace before)
              move.grows.trace (Or.inl member), removes⟩
        · exact Or.inr ⟨event, mem_drop_of_grown (Passes.trace before)
            move.grows.trace (Or.inr member), removes⟩
      · exact inductionHypothesis

/-! ## The ARP reply -/

/-- A packet with room for two Ethernet addresses, for an existing interface. -/
structure SrPacket.Deliverable (ifList : List SrIf) (packet : SrPacket) : Prop where
  addresses : etherShost + 6 ≤ packet.buf.length
  interface : ∃ interface, srGetInterface ifList packet.iface = some interface

theorem SrPacket.WellFormed.deliverable {ifList : List SrIf} {packet : SrPacket}
    (wellFormed : packet.WellFormed ifList) : packet.Deliverable ifList :=
  ⟨Nat.le_trans (by decide) wellFormed.header, wellFormed.interface⟩

def deliveryEvents (ifList : List SrIf) (mac : Mac) (packet : SrPacket) : List Event :=
  match srGetInterface ifList packet.iface with
  | none => []
  | some interface => sendEvents ifList (addressedFrame packet.buf mac interface) packet.iface

theorem ends_sendWaiting {sr : SrInstance} {packet : SrPacket}
    (deliverable : packet.Deliverable sr.ifList) (mac : Mac)
    (stopped : Fault → SrInstance → Prop) :
    Ends (sendWaiting mac packet) sr
      (fun _ next => next.ifList = sr.ifList ∧ next.requests = sr.requests ∧
        next.trace = sr.trace ++ deliveryEvents sr.ifList mac packet) stopped := by
  obtain ⟨interface, found⟩ := deliverable.interface
  have room := deliverable.addresses
  rw [etherShost] at room
  have dhost : etherDhost + mac.toList.length ≤ packet.buf.length := by
    rw [Vector.length_toList, etherDhost]; omega
  have shost : etherShost + interface.addr.toList.length ≤
      (put packet.buf etherDhost mac.toList).length := by
    rw [put_length dhost, Vector.length_toList, etherShost]; omega
  simp only [sendWaiting, storeAll, ends_bind, ends_get, found, ends_store, if_pos dhost,
    if_pos shost, ends_pure, deliveryEvents]
  exact ends_srSendPacket _ _ _ _ _ fun _ => ⟨rfl, rfl, rfl⟩

theorem ends_sendWaiting_forM {ifList : List SrIf} (mac : Mac)
    (stopped : Fault → SrInstance → Prop) :
    ∀ (packets : List SrPacket) (sr : SrInstance), sr.ifList = ifList →
      (∀ packet ∈ packets, packet.Deliverable ifList) →
      Ends (packets.forM (sendWaiting mac)) sr
        (fun _ next => next.requests = sr.requests ∧
          next.trace = sr.trace ++ packets.flatMap (deliveryEvents ifList mac)) stopped := by
  intro packets
  induction packets with
  | nil =>
      intro sr _ _
      exact ⟨rfl, (List.append_nil _).symm⟩
  | cons packet rest inductionHypothesis =>
      rintro sr rfl deliverable
      have first := deliverable packet (List.mem_cons_self ..)
      rw [List.forM_eq_forM, List.forM_cons, ends_bind]
      refine (ends_sendWaiting first mac stopped).mono ?_ fun _ _ stops => stops
      rintro _ sent ⟨sentIfList, sentRequests, sentTrace⟩
      refine (inductionHypothesis sent sentIfList fun other member =>
        deliverable other (List.mem_cons_of_mem _ member)).mono ?_ fun _ _ stops => stops
      rintro _ last ⟨requests, trace⟩
      refine ⟨requests.trans sentRequests, ?_⟩
      rw [trace, sentTrace, List.append_assoc, List.flatMap_cons]

theorem sendPacket_mem_deliveries {ifList : List SrIf} {packets : List SrPacket}
    {packet : SrPacket} (member : packet ∈ packets) {interface : SrIf}
    (found : srGetInterface ifList packet.iface = some interface) (mac : Mac) :
    .sendPacket (addressedFrame packet.buf mac interface) packet.iface ∈
      packets.flatMap (deliveryEvents ifList mac) := by
  refine List.mem_flatMap.mpr ⟨packet, member, ?_⟩
  rw [deliveryEvents, found]
  exact List.mem_cons_self ..

/-- The frame is an ARP reply for the router that maps `gw` to `mac`. -/
structure ArpReply (memory : Memory) (sr : SrInstance) (frame : Bytes) (gw : UInt32)
    (mac : Mac) : Prop where
  whole : sizeofEthernetHdr + sizeofArpHdr ≤ frame.length
  type : ntohs (peek16 memory.beyond frame etherType) = ethertypeArp
  op : ntohs (peek16 memory.beyond frame arOp) = arpOpReply
  nonzero : peek32 memory.beyond frame arTip ≠ 0
  target : ∃ interface ∈ sr.ifList, interface.ip = peek32 memory.beyond frame arTip
  sender : peek32 memory.beyond frame arSip = gw
  sha : (Vector.ofFn fun i => peek memory.beyond frame (arSha + i)) = mac

theorem ends_acceptArpReply {memory : Memory} {sr : SrInstance} {buf : Buf} {req : SrArpreq}
    (found : (sr.requests.find? fun req =>
      req.ip = peek32 memory.beyond buf.bytes arSip) = some req)
    (deliverable : ∀ packet ∈ req.packets, packet.Deliverable sr.ifList)
    (stopped : Fault → SrInstance → Prop) :
    Ends (acceptArpReply memory buf) sr
      (fun _ next => next.requests = remove SrArpreq.id req.id sr.requests ∧
        next.trace = sr.trace ++
          .resolved req.id (Vector.ofFn fun i => peek memory.beyond buf.bytes (arSha + i)) ::
            req.packets.flatMap (deliveryEvents sr.ifList
              (Vector.ofFn fun i => peek memory.beyond buf.bytes (arSha + i)))) stopped := by
  simp only [acceptArpReply, ends_bind, ends_touch, ends_load32,
    ends_srArpcacheInsert]
  generalize (Vector.ofFn fun i => peek memory.beyond buf.bytes (arSha + i)) = mac
  simp only [SrInstance.touched, found, ends_bind, ends_log, ends_srArpreqDestroy]
  refine (ends_sendWaiting_forM mac stopped req.packets _ (by rfl) deliverable).mono ?_
    fun _ _ stops => stops
  rintro _ last ⟨requests, trace⟩
  have gone : last.requests = remove SrArpreq.id req.id sr.requests := requests
  have unlinked : ∀ other ∈ last.requests, other.id ≠ req.id := by
    intro other member
    rw [gone] at member
    simpa using (List.mem_filter.mp member).2
  rw [destroy_of_unlinked unlinked]
  refine ⟨gone, ?_⟩
  rw [trace, SrInstance.record, List.append_assoc]
  rfl

theorem ends_acceptArpReply_unasked {memory : Memory} {sr : SrInstance} {buf : Buf}
    (absent : (sr.requests.find? fun req =>
      req.ip = peek32 memory.beyond buf.bytes arSip) = none)
    (stopped : Fault → SrInstance → Prop) :
    Ends (acceptArpReply memory buf) sr
      (fun _ next => next.requests = sr.requests ∧ next.trace = sr.trace) stopped := by
  simp only [acceptArpReply, ends_bind, ends_touch, ends_load32,
    ends_srArpcacheInsert, SrInstance.touched, absent, ends_pure, and_self]

theorem ArpReply.ends_srHandlepacket {memory : Memory} {sr : SrInstance} {frame : Bytes}
    {gw : UInt32} {mac : Mac} (reply : ArpReply memory sr frame gw mac) (depth : Nat)
    (arrival : Name) (returned : Unit → SrInstance → Prop)
    (stopped : Fault → SrInstance → Prop) :
    Ends (srHandlepacket memory depth ⟨.frame, frame⟩ arrival) sr returned stopped ↔
      Ends (acceptArpReply memory ⟨.frame, frame⟩) (sr.accessed
        [⟨.frame, etherType, 2⟩, ⟨.frame, arTip, 4⟩, ⟨.frame, arOp, 2⟩])
        returned stopped := by
  have enough : ¬ frame.length < sizeofEthernetHdr := by
    have whole := reply.whole
    omega
  obtain ⟨interface, target, targetIp⟩ := reply.target
  have found : ∃ outInterface, (sr.ifList.find? fun walker =>
      walker.ip = peek32 memory.beyond frame arTip) = some outInterface :=
    Option.isSome_iff_exists.mp
      (List.find?_isSome.mpr ⟨interface, target, by simpa using targetIp⟩)
  obtain ⟨outInterface, found⟩ := found
  have notRequest : arpOpReply ≠ arpOpRequest := by decide
  simp only [srHandlepacket, ends_ite, if_neg enough, ends_bind, ends_load16, reply.type,
    if_true, handleArpFrame, answerArpFrame, ends_load32, ends_srGetInterfaceByIp, reply.nonzero,
    if_false, SrInstance.touched, found, reply.op, if_neg notRequest]
  simp only [SrInstance.accessed, List.append_assoc, List.cons_append, List.nil_append]

theorem ends_srHandlepacket_arpReply {memory : Memory} {sr : SrInstance} {frame : Bytes}
    {gw : UInt32} {mac : Mac} (reply : ArpReply memory sr frame gw mac)
    {request : Nat} {waiting : SrPacket} (invariant : QueueInvariant sr)
    (waits : Waits sr request gw waiting) (depth : Nat) (arrival : Name)
    (stopped : Fault → SrInstance → Prop) :
    Ends (srHandlepacket memory depth ⟨.frame, frame⟩ arrival) sr
      (fun _ next => ∃ interface,
        srGetInterface sr.ifList waiting.iface = some interface ∧
          .sendPacket (addressedFrame waiting.buf mac interface) waiting.iface ∈
            next.trace.drop sr.trace.length) stopped := by
  obtain ⟨req, member, _, sameIp, inside⟩ := waits
  have found : (sr.requests.find? fun req =>
      req.ip = peek32 memory.beyond frame arSip) = some req :=
    invariant.ips.lookup_eq_some_iff.mpr ⟨member, sameIp.trans reply.sender.symm⟩
  have wellFormed := (invariant.requests req (mem_everyRequest_of_mem member)).packets
  obtain ⟨interface, same⟩ := (wellFormed waiting inside).interface
  rw [reply.ends_srHandlepacket]
  refine (@ends_acceptArpReply memory (sr.accessed
      [⟨.frame, etherType, 2⟩, ⟨.frame, arTip, 4⟩, ⟨.frame, arOp, 2⟩]) ⟨.frame, frame⟩ req found
    (fun packet waits => (wellFormed packet waits).deliverable) stopped).mono ?_
    fun _ _ stops => stops
  rintro _ last ⟨_, trace⟩
  refine ⟨interface, same, ?_⟩
  change last.trace = sr.trace ++ _ at trace
  rw [trace, reply.sha, List.drop_left]
  exact List.mem_cons_of_mem _ (sendPacket_mem_deliveries inside same mac)

/-! ## A miss and its answer against a hit -/

theorem Noted.queueInvariant {before after : SrInstance} (noted : Noted before after)
    (invariant : QueueInvariant before) : QueueInvariant after := by
  obtain ⟨_, same⟩ := noted.same
  rw [same]
  exact invariant.perm (List.Perm.refl _) (List.Sublist.refl _) rfl (Nat.le_refl _)

theorem Noted.withEntries {before after : SrInstance} (noted : Noted before after)
    (entries : ArpTable) :
    Noted (before.withEntries entries) (after.withEntries entries) := by
  obtain ⟨⟨accesses, same⟩, trace⟩ := noted
  refine ⟨⟨accesses, ?_⟩, trace⟩
  rw [same]
  rfl

section Tail

variable {program : Sr Unit} {sr after : SrInstance} (noted : Noted sr after)
  {handle : Nat → Sr Unit} {gw : UInt32} {packet : Buf} {interface : SrIf}
  (long : 34 ≤ packet.bytes.length)

include noted long

theorem firstEffect_of_hit {arpEntry : SrArpentry}
    (hit : srArpcacheLookup after.entries gw = some arpEntry)
    (tail : program sr = sendOrQueue handle gw packet (some interface) after) :
    FirstEffect program sr
      (.sendPacket (addressedFrame packet.bytes arpEntry.mac interface)
        interface.name) := by
  have sent : finalState program sr =
      finalState (sendOrQueue handle gw packet (some interface)) after := by
    rw [finalState, tail, finalState]
  have final := ((ends_sendOrQueue_hit hit long handle interface
    fun _ _ => False).mono (fun _ _ same => congrArg SrInstance.trace same)
    (fun _ _ impossible => impossible.elim)).finalState
  rw [← sent] at final
  exact firstEffect_of_trace noted final

theorem moves_of_miss {memory : Memory} {depth : Nat}
    (miss : srArpcacheLookup after.entries gw = none)
    (tail : program sr =
      sendOrQueue (handleArpreq memory depth) gw packet (some interface) after) :
    Moves (after.enqueue gw packet.bytes interface.name) (finalState program sr) ∧
      FirstEffect program sr
        (.queued gw (after.withRequest gw).2 (after.withRequest gw).1.nextId
          packet.bytes interface.name) := by
  have sent : finalState program sr = finalState
      (sendOrQueue (handleArpreq memory depth) gw packet (some interface)) after := by
    rw [finalState, tail, finalState]
  have nonempty : packet.bytes.length ≠ 0 := by omega
  have moves : Moves (after.enqueue gw packet.bytes interface.name)
      (finalState program sr) := by
    rw [sent]
    refine Ends.finalState ((ends_sendOrQueue_miss miss nonempty _ interface _ _).mpr ?_)
    have keeps : KeepsMoves True (after.enqueue gw packet.bytes interface.name)
        (handleArpreq memory depth (after.withRequest gw).2) fun _ => True :=
      keeps_moves_handleArpreq memory depth _
    exact (keeps _ (Moves.refl _)).mono (fun _ _ both => both.1) (fun _ _ both => both.1)
  refine ⟨moves, ?_⟩
  obtain ⟨rest, trace⟩ := moves.grows.trace
  refine firstEffect_of_trace noted (?_ : _ = after.trace ++ _ :: rest)
  rw [← trace, trace_enqueue, List.append_assoc]
  rfl

end Tail

/-- Where a program's first effect is to queue a frame, it came to the tail with
that frame and missed; its state goes on from the queue with the frame in it. -/
theorem emits_of_firstEffect_queued {program : (Nat → Sr Unit) → Sr Unit}
    {memory : Memory} {depth : Nat} {sr : SrInstance} {gw : UInt32}
    {request packetId : Nat} {buf : Bytes} {iface : Name}
    (prepares : Prepares sr.ifList sr program)
    (queued : FirstEffect (program (handleArpreq memory depth)) sr
      (.queued gw request packetId buf iface)) :
    ∃ (after : SrInstance) (packet : Buf) (interface : SrIf),
      Noted sr after ∧ 34 ≤ packet.bytes.length ∧
        srGetInterface sr.ifList interface.name = some interface ∧
        Event.queued gw request packetId buf iface =
          .queued gw (after.withRequest gw).2 (after.withRequest gw).1.nextId
            packet.bytes interface.name ∧
        (∀ handle entries, program handle (sr.withEntries entries) =
          sendOrQueue handle gw packet (some interface) (after.withEntries entries)) ∧
        Moves (after.enqueue gw packet.bytes interface.name)
          (finalState (program (handleArpreq memory depth)) sr) := by
  have effect : ¬ (Event.queued gw request packetId buf iface).IsNote := fun note => note
  cases prepares with
  | drops after noted ends =>
      have final := congrArg SrInstance.trace (ends (handleArpreq memory depth) sr.entries)
      exact absurd (queued.isNote noted final) effect
  | emits after noted tailGw packet name long tail =>
      have run : program (handleArpreq memory depth) sr = _ :=
        tail (handleArpreq memory depth) sr.entries
      have unchanged : after.withEntries sr.entries = after := by
        obtain ⟨_, same⟩ := noted.same
        rw [same]
        rfl
      rw [unchanged] at run
      cases found : srGetInterface sr.ifList name with
      | none =>
          have final := (ends_sendOrQueue_none after (handleArpreq memory depth) tailGw
            packet).finalState
          rw [found] at run
          rw [finalState, ← run, ← finalState] at final
          exact absurd (queued.isNote noted final) effect
      | some interface =>
          rw [found] at run
          cases lookup : srArpcacheLookup after.entries tailGw with
          | some arpEntry =>
              have sent := firstEffect_of_hit noted long lookup run
              exact absurd (queued.unique effect sent fun note => note) (by simp)
          | none =>
              obtain ⟨moves, first⟩ := moves_of_miss noted long lookup run
              have same := queued.unique effect first fun note => note
              obtain rfl : gw = tailGw := (Event.queued.inj same).1
              exact ⟨after, packet, interface, noted, long,
                srGetInterface_own_name found, same,
                fun handle entries => by rw [tail, found], moves⟩

theorem waits_enqueue {sr : SrInstance} (invariant : QueueInvariant sr) (gw : UInt32)
    (packet : Bytes) (iface : Name) :
    Waits (sr.enqueue gw packet iface) (sr.withRequest gw).2 gw
      ⟨(sr.withRequest gw).1.nextId, packet, strncpy srIfaceNamelen iface⟩ := by
  obtain ⟨_, req, member, sameId, sameIp⟩ := addressed_withRequest invariant.addressed gw
  refine ⟨req.push _, ?_, sameId, sameIp, List.mem_cons_self ..⟩
  refine List.mem_map.mpr ⟨req, member, if_pos sameId⟩

/-- A frame that missed the ARP table is sent, when the reply for its gateway
comes, as it would have been sent had the table held that mapping; in between the
router may do anything that neither gives the request up nor answers it. -/
theorem queued_frame_sent_as_if_cached {memory : Memory} {depth : Nat}
    {emission : Emission} {sr later : SrInstance} {gw : UInt32}
    {request packetId : Nat} {buf : Bytes} {iface : Name} {mac : Mac}
    {replyMemory : Memory} {frame : Bytes}
    (invariant : QueueInvariant sr)
    (long : sizeofEthernetHdr + sizeofIpHdr ≤ emission.packet.bytes.length)
    (queued : FirstEffect (emission.program memory (handleArpreq memory depth)) sr
      (.queued gw request packetId buf iface))
    (passes : Passes
      (finalState (emission.program memory (handleArpreq memory depth)) sr) later)
    (keptOnQueue : ∀ event ∈ later.trace.drop sr.trace.length,
      ¬ event.Removes request)
    (reply : ArpReply replyMemory later frame gw mac) :
    ∃ (bytes : Bytes) (name sentName : Name),
      cString srIfaceNamelen sentName = cString srIfaceNamelen name ∧
        (∀ (entries : ArpTable) (arpEntry : SrArpentry),
          srArpcacheLookup entries gw = some arpEntry → arpEntry.mac = mac →
            FirstEffect (emission.program memory (handleArpreq memory depth))
              (sr.withEntries entries) (.sendPacket bytes name)) ∧
        ∀ (replyDepth : Nat) (arrival : Name), ∃ next,
          srHandlepacket replyMemory replyDepth ⟨.frame, frame⟩ arrival later =
              .ok () next ∧
            .sendPacket bytes sentName ∈ next.trace.drop later.trace.length := by
  obtain ⟨after, packet, interface, noted, packetLong, found, same, tail, moves⟩ :=
    emits_of_firstEffect_queued (emission.prepares memory rfl long) queued
  have passed : Passes (after.enqueue gw packet.bytes interface.name) later :=
    moves.passes.trans passes
  have queueInvariant :
      QueueInvariant (after.enqueue gw packet.bytes interface.name) :=
    queueInvariant_enqueue (noted.queueInvariant invariant) (noted.ifList ▸ found)
      packetLong
  obtain rfl : request = (after.withRequest gw).2 := (Event.queued.inj same).2.1
  have start : sr.trace <+: (after.enqueue gw packet.bytes interface.name).trace := by
    obtain ⟨notes, trace, _⟩ := noted.trace
    exact (trace ▸ List.prefix_append _ _ : sr.trace <+: after.trace).trans
      (grows_enqueue after gw packet.bytes interface.name).trace
  have waits : Waits later (after.withRequest gw).2 gw
      ⟨(after.withRequest gw).1.nextId, packet.bytes,
        strncpy srIfaceNamelen interface.name⟩ := by
    rcases passed.waits_or_removes
      (waits_enqueue (noted.queueInvariant invariant) gw packet.bytes interface.name)
      with still | ⟨event, member, removes⟩
    · exact still
    · exact absurd removes
        (keptOnQueue event (mem_drop_of_grown start passed.trace (Or.inl member)))
  have laterIfList : later.ifList = sr.ifList :=
    passed.ifList.trans ((grows_enqueue _ _ _ _).ifList.trans noted.ifList)
  refine ⟨addressedFrame packet.bytes mac interface, interface.name,
    strncpy srIfaceNamelen interface.name, cString_strncpy _ _, ?_, ?_⟩
  · rintro entries arpEntry hit rfl
    exact firstEffect_of_hit (noted.withEntries entries) packetLong hit
      (tail (handleArpreq memory depth) entries)
  · intro replyDepth arrival
    have ends := ends_srHandlepacket_arpReply reply
      (passed.preserves_queueInvariant queueInvariant) waits replyDepth arrival
      fun _ _ => False
    obtain ⟨_, next, run, sentInterface, sentFound, event⟩ := ends.exists_ok
    rw [laterIfList, srGetInterface_congr _ (cString_strncpy _ _), found] at sentFound
    obtain rfl := Option.some.inj sentFound
    exact ⟨next, run, event⟩

def gatewayMac : Mac := #v[2, 0, 0, 0, 0, 9]

def forwardedNetwork : SrInstance :=
  finalState ((Emission.forward ⟨.frame, datagram⟩).program noMemory
    (handleArpreq noMemory 1)) smallNetwork

theorem gatewayReply_sends_datagram :
    ∃ (bytes : Bytes) (name sentName : Name),
      cString srIfaceNamelen sentName = cString srIfaceNamelen name ∧
        (∀ (entries : ArpTable) (arpEntry : SrArpentry),
          srArpcacheLookup entries lanRoute.gw = some arpEntry →
            arpEntry.mac = gatewayMac →
            FirstEffect ((Emission.forward ⟨.frame, datagram⟩).program noMemory
              (handleArpreq noMemory 1))
              (smallNetwork.withEntries entries) (.sendPacket bytes name)) ∧
        ∀ (replyDepth : Nat) (arrival : Name), ∃ next,
          srHandlepacket noMemory replyDepth ⟨.frame, arpReplyFrom 9 9⟩ arrival
              forwardedNetwork = .ok () next ∧
            .sendPacket bytes sentName ∈
              next.trace.drop forwardedNetwork.trace.length := by
  have queued : FirstEffect ((Emission.forward ⟨.frame, datagram⟩).program noMemory
      (handleArpreq noMemory 1)) smallNetwork
      (.queued lanRoute.gw 0 1 forwardedDatagram eth0.name) :=
    ⟨[], forwardedNetwork.trace.drop 1, by decide +kernel, by simp⟩
  refine queued_frame_sent_as_if_cached
    (queueInvariant_srArpcacheInit [eth0] [lanRoute] 100) (by decide) queued
    Relation.ReflTransGen.refl (by decide +kernel) ?_
  exact ⟨by decide, by decide, by decide, by decide,
    ⟨eth0, List.mem_singleton_self _, by decide⟩, by decide, by decide⟩

end Cmput313.Router
