import Cmput313.Router.Dispatch
import Cmput313.Router.IcmpError
import Cmput313.Router.RetryTimer

/-!
# The datagram that an error quotes

An error quotes the first 28 bytes of the datagram as they are in the buffer.  For a
frame that was to be forwarded the hop is gone by then, whether it is reported at once
or after it waited for an address in vain.
-/

set_option autoImplicit false

namespace Cmput313.Router

open Cmput313.Bytes Cmput313.Keyed Cmput313.Program

/-! ## The data field -/

def icmpData (buf : Bytes) : Bytes :=
  (buf.drop (sizeofEthernetHdr + headerLength (buf.getD ipVhl 0) * 4 + 8)).take icmpDataSize

theorem icmpData_congr {left right : Bytes}
    (same : left.drop sizeofEthernetHdr = right.drop sizeofEthernetHdr) :
    icmpData left = icmpData right := by
  have behind : ∀ index, left.drop (sizeofEthernetHdr + index) =
      right.drop (sizeofEthernetHdr + index) := by
    intro index
    rw [← List.drop_drop, same, List.drop_drop]
  have vhl : left.getD ipVhl 0 = right.getD ipVhl 0 := by
    have first := congrArg (fun bytes => bytes.getD 0 0) same
    simpa [List.getD_eq_getElem?_getD, List.getElem?_drop, ipVhl, sizeofEthernetHdr] using first
  rw [icmpData, icmpData, vhl, Nat.add_assoc, behind]

theorem icmpData_icmpErrorPacket {memory : Memory} {hl : Nat} (fixed : 5 ≤ hl)
    (small : hl ≤ 15) {type code : UInt8} {src dst : UInt32} {quoted : Bytes}
    (whole : quoted.length = icmpDataSize) :
    icmpData (icmpErrorPacket memory hl type code src dst quoted) = quoted := by
  have vhl : headerLength ((icmpErrorPacket memory hl type code src dst quoted).getD ipVhl 0) =
      hl := by
    rw [icmpErrorPacket_eq memory fixed type code src dst whole]
    show headerLength (UInt8.ofNat (64 + hl)) = hl
    rw [headerLength, UInt8.toNat_ofNat']
    omega
  have front : (errorEthernet ++ errorHeader memory hl src dst).length =
      sizeofEthernetHdr + hl * 4 := by
    rw [List.length_append, errorHeader_length memory fixed, errorEthernet_length]
  rw [icmpData, vhl, icmpErrorPacket_eq memory fixed type code src dst whole, ← front,
    List.drop_length_add_append]
  show quoted.take icmpDataSize = quoted
  rw [← whole, List.take_length]

theorem icmpData_outgoingFrame {memory : Memory} {frame : Bytes} {type code : UInt8}
    (fixed : 5 ≤ headerLength (peek memory.beyond frame ipVhl)) (long : 42 ≤ frame.length)
    (entries : ArpTable) (gw : UInt32) (interface : SrIf) :
    icmpData (outgoingFrame entries gw (errorPacketFor memory frame type code interface)
      interface) = (frame.drop sizeofEthernetHdr).take icmpDataSize := by
  have inside : sizeofEthernetHdr + icmpDataSize ≤ frame.length := long
  rw [icmpData_congr (drop_outgoingFrame entries gw (errorPacketFor_long frame interface)
      interface), errorPacketFor,
    icmpData_icmpErrorPacket fixed (headerLength_le _) (read_length ..), read_of_le _ _ inside]

theorem icmpData_of_report {memory : Memory} {program : Sr Unit} {sr after : SrInstance}
    {depth : Nat} (packet : Buf) {type code : UInt8} {buf : Bytes}
    (fixed : 5 ≤ headerLength (peek memory.beyond packet.bytes ipVhl))
    (long : 42 ≤ packet.bytes.length)
    (error : type = icmpTypeTimeExceeded ∨ type = icmpTypeDestUnreachable)
    (noted : Noted sr after)
    (runs : program sr =
      sendIcmpMsg memory (handleArpreq memory depth) packet type code after)
    (sent : emitted program sr = some buf) :
    icmpData buf = (packet.bytes.drop sizeofEthernetHdr).take icmpDataSize := by
  rw [emitted_of_report noted runs, emitted_sendIcmpMsg_error error] at sent
  obtain ⟨⟨rtEntry, interface⟩, -, rfl⟩ := Option.map_eq_some_iff.mp sent
  exact icmpData_outgoingFrame fixed long _ _ _

/-! ## Packets that wait -/

/-- The block at the address holds these bytes, wherever the packet is. -/
structure Carries (sr : SrInstance) (id : Nat) (bytes : Bytes) : Prop where
  allocated : id < sr.nextId
  content : ∀ req ∈ sr.everyRequest, ∀ packet ∈ req.packets, packet.id = id →
    packet.buf = bytes

section Carries

variable {id : Nat} {bytes : Bytes}

theorem Carries.of_requests {before after : SrInstance} (carries : Carries before id bytes)
    (same : after.everyRequest ⊆ before.everyRequest) (later : before.nextId ≤ after.nextId) :
    Carries after id bytes where
  allocated := Nat.lt_of_lt_of_le carries.allocated later
  content := fun req member => carries.content req (same member)

theorem Carries.of_updateRequest {sr : SrInstance} (carries : Carries sr id bytes)
    (other : Nat) (change : SrArpreq → SrArpreq)
    (content : ∀ req ∈ sr.everyRequest, ∀ packet ∈ (change req).packets, packet.id = id →
      packet ∈ req.packets) : Carries (sr.updateRequest other change) id bytes where
  allocated := carries.allocated
  content := by
    intro req member packet held own
    rw [everyRequest_updateRequest] at member
    obtain ⟨old, existed, ⟨-, rfl⟩ | ⟨-, rfl⟩⟩ := mem_update member
    · exact carries.content old existed packet (content old existed packet held own) own
    · exact carries.content req existed packet held own

theorem carries_withRequest {sr : SrInstance} (carries : Carries sr id bytes) (ip : UInt32) :
    Carries (sr.withRequest ip).1 id bytes := by
  refine ⟨Nat.lt_of_lt_of_le carries.allocated (grows_withRequest sr ip).nextId, ?_⟩
  intro req member packet held own
  rcases mem_everyRequest_withRequest member with old | ⟨-, empty, -⟩
  · exact carries.content req old packet held own
  · rw [empty] at held
    exact absurd held List.not_mem_nil

theorem carries_enqueue {sr : SrInstance} (carries : Carries sr id bytes) (gw : UInt32)
    (packet : Bytes) (iface : Name) : Carries (sr.enqueue gw packet iface) id bytes := by
  have found := carries_withRequest carries gw
  have grown : Carries { (sr.withRequest gw).1 with
      nextId := (sr.withRequest gw).1.nextId + 1 } id bytes :=
    found.of_requests (List.Subset.refl _) (Nat.le_succ _)
  have pushed := grown.of_updateRequest (sr.withRequest gw).2
    (fun req => req.push
      ⟨(sr.withRequest gw).1.nextId, packet, strncpy srIfaceNamelen iface⟩) ?_
  · exact pushed.of_requests (List.Subset.refl _) (Nat.le_refl _)
  · intro req _ waiting held own
    rcases List.mem_cons.mp held with rfl | older
    · exact absurd found.allocated (own ▸ Nat.lt_irrefl _)
    · exact older

theorem Move.preserves_carries {before after : SrInstance} (move : Move before after)
    (addressed : Addressed before) (carries : Carries before id bytes) :
    Carries after id bytes := by
  have unchanged : after.everyRequest ⊆ before.everyRequest → Carries after id bytes :=
    fun same => carries.of_requests same move.grows.nextId
  cases move with
  | touch buf offset size => exact unchanged (List.Subset.refl _)
  | note event isNote => exact unchanged (List.Subset.refl _)
  | send buf iface interface found source => exact unchanged (List.Subset.refl _)
  | queue gw packet iface interface found long miss =>
      exact carries_enqueue carries gw packet iface
  | broadcast req packet interface live due left first found =>
      have sent : Carries ((before.record (.broadcast req.id before.clock)).sendPacket
          (arpRequestFrame interface req.ip) interface.name) id bytes :=
        carries.of_requests (List.Subset.refl _) (Nat.le_refl _)
      exact sent.of_updateRequest req.id _ fun _ _ _ held _ => held
  | timeOut request =>
      rcases destroy_cases (before.record (.timedOut request)) request with
        ⟨req, member, -, unlinked⟩ | ⟨-, same⟩
      · rw [unlinked] at unchanged ⊢
        exact unchanged
          (everyRequest_unlink (distinct_requests addressed.requests) member).subset
      · rw [same] at unchanged ⊢
        exact unchanged (List.Subset.refl _)
  | learn mac ip =>
      rcases learn_cases before mac ip with ⟨req, member, -, learned⟩ | ⟨-, learned⟩
      · rw [learned] at unchanged ⊢
        exact unchanged
          (everyRequest_unlink (distinct_requests addressed.requests) member).subset
      · rw [learned] at unchanged ⊢
        exact unchanged (List.Subset.refl _)
  | expire => exact unchanged (List.Subset.refl _)

theorem Passes.preserves_carries {start sr : SrInstance} (passes : Passes start sr)
    (addressed : Addressed start) (carries : Carries start id bytes) :
    Carries sr id bytes := by
  have both := passes.preserves (fun sr => Addressed sr ∧ Carries sr id bytes)
    ⟨addressed, carries⟩
    (fun sr now before => ⟨addressed_atTime before.1 now,
      before.2.of_requests (List.Subset.refl _) (Nat.le_refl _)⟩)
    fun _ _ before move => ⟨move.preserves_addressed before.1,
      move.preserves_carries before.1 before.2⟩
  exact both.2

end Carries

theorem carries_enqueued {sr : SrInstance} (addressed : Addressed sr) (gw : UInt32)
    (packet : Bytes) (iface : Name) :
    Carries (sr.enqueue gw packet iface) (sr.withRequest gw).1.nextId packet where
  allocated := Nat.lt_succ_self _
  content := by
    have older := (addressed_withRequest addressed gw).1.freshPackets
    have notOld : ∀ req ∈ (sr.withRequest gw).1.everyRequest, ∀ waiting ∈ req.packets,
        waiting.id ≠ (sr.withRequest gw).1.nextId := by
      intro req member waiting held
      exact Nat.ne_of_lt (older waiting.id (List.mem_flatMap.mpr
        ⟨req, member, List.mem_map_of_mem held⟩))
    intro req member waiting held own
    rw [SrInstance.enqueue, everyRequest_record, everyRequest_updateRequest] at member
    obtain ⟨old, existed, ⟨-, rfl⟩ | ⟨-, rfl⟩⟩ := mem_update member
    · rcases List.mem_cons.mp held with rfl | older
      · rfl
      · exact absurd own (notOld old existed waiting older)
    · exact absurd own (notOld req existed waiting held)

/-! ## The report of a packet that waited -/

/-- `handle_arpreq`, called in `before`, comes to the report of `waiting` in `reached`. -/
def ReportsWaiting (memory : Memory) (depth : Nat) (before : SrInstance) (request : Nat)
    (waiting : SrPacket) (reached : SrInstance) : Prop :=
  ∃ req front back, before.request? request = some req ∧ Expired before.clock req ∧
    req.packets = front ++ waiting :: back ∧
    (front.forM fun packet =>
      sendIcmpMsg memory (handleArpreq memory depth) ⟨.packet packet.id, packet.buf⟩
        icmpTypeDestUnreachable icmpDestUnreachableHost) before = .ok () reached

/-- It is the call that `handle_arpreq` makes for the packet. -/
theorem ReportsWaiting.handleArpreq_eq {memory : Memory} {depth request : Nat}
    {before reached : SrInstance} {waiting : SrPacket}
    (reports : ReportsWaiting memory depth before request waiting reached) :
    ∃ rest : Sr Unit, handleArpreq memory (depth + 1) request before =
      (sendIcmpMsg memory (handleArpreq memory depth) ⟨.packet waiting.id, waiting.buf⟩
        icmpTypeDestUnreachable icmpDestUnreachableHost >>= fun _ => rest) reached := by
  obtain ⟨req, front, back, live, expired, packets, loop⟩ := reports
  have timeOut : handleArpreq memory (depth + 1) request before =
      timeOutArpreq memory (handleArpreq memory depth) req before := by
    apply result_eq_of_ends_iff
    intro returned stopped
    rw [handleArpreq, ends_bind, ends_get]
    simp only [live, if_pos expired.1, if_pos expired.2]
  have whole := @forM_append_of_ok _ _ _ _ waiting back reached front before loop
  have shape : ∃ first others, front ++ waiting :: back = first :: others := by
    cases front with
    | nil => exact ⟨waiting, back, rfl⟩
    | cons first others => exact ⟨first, others ++ waiting :: back, rfl⟩
  obtain ⟨first, others, shape⟩ := shape
  refine ⟨(back.forM fun packet =>
      sendIcmpMsg memory (handleArpreq memory depth) ⟨.packet packet.id, packet.buf⟩
        icmpTypeDestUnreachable icmpDestUnreachableHost) >>= fun _ =>
    throw (.freedTwice first.id), ?_⟩
  rw [timeOut, timeOutArpreq, packets]
  simp only [bind, EStateM.bind, whole]
  rw [shape]
  cases sendIcmpMsg memory (handleArpreq memory depth) ⟨.packet waiting.id, waiting.buf⟩
      icmpTypeDestUnreachable icmpDestUnreachableHost reached with
  | ok value next => rfl
  | error fault next => rfl

/-! ## Errors about a frame -/

/-- `buf` is an error about the received frame.  It was reported at once; or it was
queued to be forwarded and reported later, when its ARP request timed out. -/
inductive CausesError (memory : Memory) (depth : Nat) (sr : SrInstance) (frame : Bytes)
    (arrival : Name) : Bytes → Prop where
  | atOnce {type code : UInt8} {rest : List Event} {buf : Bytes}
      (reported : (finalState (srHandlepacket memory depth ⟨.frame, frame⟩ arrival) sr).trace =
        sr.trace ++ .icmp .frame type code :: rest)
      (error : type = icmpTypeTimeExceeded ∨ type = icmpTypeDestUnreachable)
      (sent : emitted (srHandlepacket memory depth ⟨.frame, frame⟩ arrival) sr = some buf) :
      CausesError memory depth sr frame arrival buf
  | later {gw : UInt32} {queue : Nat} {waiting : SrPacket} {bytes : Bytes} {iface : Name}
      {rest : List Event} {before reached : SrInstance} {laterMemory : Memory}
      {laterDepth request : Nat} {buf : Bytes}
      (queued : (finalState (srHandlepacket memory depth ⟨.frame, frame⟩ arrival) sr).trace =
        sr.trace ++ .queued gw queue waiting.id bytes iface :: rest)
      (passes : Passes
        (finalState (srHandlepacket memory depth ⟨.frame, frame⟩ arrival) sr) before)
      (timesOut : ReportsWaiting laterMemory laterDepth before request waiting reached)
      (sent : emitted (sendIcmpMsg laterMemory (handleArpreq laterMemory laterDepth)
        ⟨.packet waiting.id, waiting.buf⟩ icmpTypeDestUnreachable icmpDestUnreachableHost)
          reached = some buf) :
      CausesError memory depth sr frame arrival buf

section Quotes

variable {memory : Memory} {sr : SrInstance} {frame : Bytes}

theorem quote_forwardedFrame_ne (long : 42 ≤ frame.length) (alive : 1 < frameTtl memory frame) :
    ((forwardedFrame memory frame).drop sizeofEthernetHdr).take icmpDataSize ≠
      (frame.drop sizeofEthernetHdr).take icmpDataSize := by
  intro same
  have fits : 34 ≤ frame.length := Nat.le_trans (by decide) long
  have length := forwardedFrame_length memory fits
  have inside : sizeofEthernetHdr + icmpDataSize ≤ frame.length := long
  have forwardedInside : sizeofEthernetHdr + icmpDataSize ≤
      (forwardedFrame memory frame).length := by
    rw [length]
    exact inside
  rw [← read_of_le memory.beyond _ forwardedInside, ← read_of_le memory.beyond _ inside] at same
  have ttls := congrArg (fun bytes => peek memory.beyond bytes 8) same
  simp only [peek_read memory.beyond _ (show 8 < icmpDataSize by decide)] at ttls
  have lowered := @frameTtl_forwardedFrame memory frame fits
  rw [frameTtl] at lowered
  rw [show sizeofEthernetHdr + 8 = ipTtl from rfl, lowered, ← frameTtl] at ttls
  have positive := UInt8.lt_iff_toNat_lt.mp alive
  have value := congrArg UInt8.toNat ttls
  rw [UInt8.toNat_sub_of_le _ _ (UInt8.le_of_lt alive)] at value
  change (frameTtl memory frame).toNat - 1 = _ at value
  change 1 < (frameTtl memory frame).toNat at positive
  omega

theorem fixed_forwardedFrame (passed : PassedOn memory sr frame) (later : Memory) :
    5 ≤ headerLength (peek later.beyond (forwardedFrame memory frame) ipVhl) := by
  have size := @headerSize_forwardedFrame memory frame passed.long
  have fixedHeader := passed.fixedHeader
  have inside : ipVhl < (forwardedFrame memory frame).length := by
    rw [forwardedFrame_length memory passed.long]
    exact Nat.lt_of_lt_of_le (by decide) passed.long
  rw [headerSize, peek_of_lt _ _ inside] at size
  rw [peek_of_lt _ _ inside]
  rw [sizeofIpHdr] at fixedHeader
  omega

theorem trace_sendOrQueue (depth : Nat) {after : SrInstance} {gw : UInt32} {packet : Buf}
    {interface : SrIf} (long : 34 ≤ packet.bytes.length) :
    ∃ event rest, (finalState (sendOrQueue (handleArpreq memory depth) gw packet
        (some interface)) after).trace = after.trace ++ event :: rest ∧
      ((∃ buf iface, event = .sendPacket buf iface) ∨
        event = .queued gw (after.withRequest gw).2 (after.withRequest gw).1.nextId packet.bytes
            interface.name ∧
          Moves (after.enqueue gw packet.bytes interface.name)
            (finalState (sendOrQueue (handleArpreq memory depth) gw packet (some interface))
              after)) := by
  cases lookup : srArpcacheLookup after.entries gw with
  | some arpEntry =>
      have final := ((ends_sendOrQueue_hit lookup long (handleArpreq memory depth) interface
        fun _ _ => False).mono (fun _ _ same => congrArg SrInstance.trace same)
        (fun _ _ impossible => impossible.elim)).finalState
      exact ⟨_, _, final, Or.inl ⟨_, _, rfl⟩⟩
  | none =>
      obtain ⟨moves, -⟩ := moves_of_miss (Noted.refl after) long lookup rfl
      obtain ⟨rest, trace⟩ := moves.grows.trace
      refine ⟨_, rest, ?_, Or.inr ⟨rfl, moves⟩⟩
      rw [← trace, trace_enqueue, List.append_assoc]
      rfl

theorem event_of_report {program : Sr Unit} {depth : Nat} {accesses : List Access}
    {packet : Buf} {type code : UInt8} {event : Event} {rest : List Event}
    (runs : program sr = sendIcmpMsg memory (handleArpreq memory depth) packet type code
      (sr.accessed accesses))
    (trace : (finalState program sr).trace = sr.trace ++ event :: rest) :
    event = .icmp packet.tag type code := by
  obtain ⟨later, reported⟩ :=
    trace_sendIcmpMsg memory depth packet type code (sr.accessed accesses)
  rw [finalState, ← runs, ← finalState, trace] at reported
  exact (List.cons.inj (List.append_cancel_left reported)).1

theorem no_event_of_silent {program : Sr Unit} {event : Event} {rest : List Event}
    (silent : (finalState program sr).trace = sr.trace)
    (trace : (finalState program sr).trace = sr.trace ++ event :: rest) : False := by
  exact absurd (trace.symm.trans silent) (by simp)

/-- What was queued is still what waits when the request times out. -/
theorem PassedOn.waiting_eq (passed : PassedOn memory sr frame) (addressed : Addressed sr)
    {depth : Nat} {arrival : Name} {gw : UInt32} {interface : SrIf} {accesses : List Access}
    (runs : srHandlepacket memory depth ⟨.frame, frame⟩ arrival sr =
      sendOrQueue (handleArpreq memory depth) gw ⟨.frame, forwardedFrame memory frame⟩
        (some interface) (sr.accessed accesses))
    {gateway : UInt32} {queue : Nat} {waiting : SrPacket} {bytes : Bytes} {iface : Name}
    {rest : List Event}
    (queued : (finalState (srHandlepacket memory depth ⟨.frame, frame⟩ arrival) sr).trace =
      sr.trace ++ .queued gateway queue waiting.id bytes iface :: rest)
    {before reached : SrInstance} {laterMemory : Memory} {laterDepth request : Nat}
    (passes : Passes (finalState (srHandlepacket memory depth ⟨.frame, frame⟩ arrival) sr)
      before)
    (timesOut : ReportsWaiting laterMemory laterDepth before request waiting reached) :
    waiting.buf = forwardedFrame memory frame := by
  have long : 34 ≤ (forwardedFrame memory frame).length := by
    rw [forwardedFrame_length memory passed.long]
    exact passed.long
  have sent : finalState (srHandlepacket memory depth ⟨.frame, frame⟩ arrival) sr =
      finalState (sendOrQueue (handleArpreq memory depth) gw
        ⟨.frame, forwardedFrame memory frame⟩ (some interface)) (sr.accessed accesses) := by
    rw [finalState, runs, finalState]
  obtain ⟨event, others, trace, effect⟩ := @trace_sendOrQueue memory depth
    (sr.accessed accesses) gw ⟨.frame, forwardedFrame memory frame⟩ interface long
  rw [← sent] at trace effect
  have same := (List.cons.inj (List.append_cancel_left (queued.symm.trans trace))).1
  rcases effect with ⟨_, _, direct⟩ | ⟨enqueued, moves⟩
  · exact Event.noConfusion (same.trans direct)
  · have id := (Event.queued.inj (same.trans enqueued)).2.2.1
    have kept : Addressed (sr.accessed accesses) :=
      addressed.perm (List.Perm.refl _) (Nat.le_refl _)
    have waits : Passes ((sr.accessed accesses).enqueue gw (forwardedFrame memory frame)
        interface.name) before := moves.passes.trans passes
    have carries := waits.preserves_carries
      (addressed_enqueue kept gw (forwardedFrame memory frame) interface.name)
      (carries_enqueued kept gw (forwardedFrame memory frame) interface.name)
    obtain ⟨req, front, back, live, -, packets, -⟩ := timesOut
    refine carries.content req (List.mem_of_find?_eq_some live) waiting ?_ id
    rw [packets]
    exact List.mem_append_right _ (List.mem_cons_self ..)

/-- An error quotes the frame as it was received, or as it was to be forwarded. -/
def QuotesFrame (memory : Memory) (sr : SrInstance) (frame buf : Bytes) : Prop :=
  (icmpData buf = (frame.drop sizeofEthernetHdr).take icmpDataSize ∧
    (frameTtl memory frame ≤ 1 ∨
      ∃ walker ∈ sr.ifList, walker.ip = frameDst memory frame)) ∨
  (icmpData buf = ((forwardedFrame memory frame).drop sizeofEthernetHdr).take icmpDataSize ∧
    PassedOn memory sr frame)

section Caused

variable (accepted : AcceptedFrame memory frame) (long : 42 ≤ frame.length) {depth : Nat}
  {arrival : Name} {buf : Bytes}

include accepted long

theorem quotesFrame_of_reported {type code : UInt8} {rest : List Event}
    (reported : (finalState (srHandlepacket memory depth ⟨.frame, frame⟩ arrival) sr).trace =
      sr.trace ++ .icmp .frame type code :: rest)
    (error : type = icmpTypeTimeExceeded ∨ type = icmpTypeDestUnreachable)
    (sent : emitted (srHandlepacket memory depth ⟨.frame, frame⟩ arrival) sr = some buf) :
    QuotesFrame memory sr frame buf := by
  have fixed := accepted.wellFormed.fixed
  have forwardedLong : 42 ≤ (forwardedFrame memory frame).length := by
    rw [forwardedFrame_length memory accepted.wellFormed.long]
    exact long
  cases @AcceptedFrame.fate memory sr frame depth arrival accepted with
  | expired ttl accesses runs =>
      exact Or.inl ⟨icmpData_of_report ⟨.frame, frame⟩ fixed long (Or.inl rfl)
        (noted_accessed sr accesses) runs sent, Or.inl ttl⟩
  | answered own accesses runs =>
      obtain ⟨-, rfl, -⟩ := Event.icmp.inj (event_of_report runs reported)
      exact absurd error (by decide)
  | unreachablePort own accesses runs =>
      exact Or.inl ⟨icmpData_of_report ⟨.frame, frame⟩ fixed long (Or.inr rfl)
        (noted_accessed sr accesses) runs sent, Or.inr own⟩
  | dropped silent => exact (no_event_of_silent silent reported).elim
  | unreachableNet passed accesses runs =>
      exact Or.inr ⟨icmpData_of_report ⟨.frame, forwardedFrame memory frame⟩
        (fixed_forwardedFrame passed memory) forwardedLong (Or.inr rfl)
        (noted_accessed sr accesses) runs sent, passed⟩
  | forwarded passed gw interface accesses runs =>
      -- the tail leaves no report in front of what it sends or queues
      obtain ⟨event, others, trace, effect⟩ := @trace_sendOrQueue memory depth
        (sr.accessed accesses) gw ⟨.frame, forwardedFrame memory frame⟩ interface
        (Nat.le_trans (by decide) forwardedLong)
      rw [finalState, ← runs, ← finalState] at trace
      have same := (List.cons.inj (List.append_cancel_left (reported.symm.trans trace))).1
      rcases effect with ⟨_, _, direct⟩ | ⟨enqueued, -⟩
      · exact Event.noConfusion (same.trans direct)
      · exact Event.noConfusion (same.trans enqueued)

theorem quotesFrame_of_queued (addressed : Addressed sr) {gateway : UInt32} {queue : Nat}
    {waiting : SrPacket} {bytes : Bytes} {iface : Name} {rest : List Event}
    (queued : (finalState (srHandlepacket memory depth ⟨.frame, frame⟩ arrival) sr).trace =
      sr.trace ++ .queued gateway queue waiting.id bytes iface :: rest)
    {before reached : SrInstance} {laterMemory : Memory} {laterDepth request : Nat}
    (passes : Passes (finalState (srHandlepacket memory depth ⟨.frame, frame⟩ arrival) sr)
      before)
    (timesOut : ReportsWaiting laterMemory laterDepth before request waiting reached)
    (sent : emitted (sendIcmpMsg laterMemory (handleArpreq laterMemory laterDepth)
      ⟨.packet waiting.id, waiting.buf⟩ icmpTypeDestUnreachable icmpDestUnreachableHost)
        reached = some buf) :
    QuotesFrame memory sr frame buf := by
  cases @AcceptedFrame.fate memory sr frame depth arrival accepted with
  | expired ttl accesses runs => exact Event.noConfusion (event_of_report runs queued)
  | answered own accesses runs => exact Event.noConfusion (event_of_report runs queued)
  | unreachablePort own accesses runs =>
      exact Event.noConfusion (event_of_report runs queued)
  | dropped silent => exact (no_event_of_silent silent queued).elim
  | unreachableNet passed accesses runs =>
      exact Event.noConfusion (event_of_report runs queued)
  | forwarded passed gw interface accesses runs =>
      have forwardedLong : 42 ≤ (forwardedFrame memory frame).length := by
        rw [forwardedFrame_length memory accepted.wellFormed.long]
        exact long
      have waits := passed.waiting_eq addressed runs queued passes timesOut
      rw [waits] at sent
      exact Or.inr ⟨icmpData_of_report ⟨.packet waiting.id, forwardedFrame memory frame⟩
        (fixed_forwardedFrame passed laterMemory) forwardedLong (Or.inr rfl) (Noted.refl _) rfl
        sent, passed⟩

theorem CausesError.quotesFrame (addressed : Addressed sr)
    (caused : CausesError memory depth sr frame arrival buf) :
    QuotesFrame memory sr frame buf := by
  cases caused with
  | atOnce reported error sent => exact quotesFrame_of_reported accepted long reported error sent
  | later queued passes timesOut sent =>
      exact quotesFrame_of_queued accepted long addressed queued passes timesOut sent

/-- The quote is of the datagram as it was received exactly when the frame had no hop
left or was for the router. -/
theorem error_quotes_received_iff (addressed : Addressed sr)
    (caused : CausesError memory depth sr frame arrival buf) :
    icmpData buf = (frame.drop sizeofEthernetHdr).take icmpDataSize ↔
      frameTtl memory frame ≤ 1 ∨
        ∃ walker ∈ sr.ifList, walker.ip = frameDst memory frame := by
  rcases caused.quotesFrame accepted long addressed with ⟨quoted, kept⟩ | ⟨quoted, passed⟩
  · exact iff_of_true quoted kept
  · rw [quoted]
    refine iff_of_false (quote_forwardedFrame_ne long passed.ttl) ?_
    rintro (expired | ⟨walker, member, own⟩)
    · exact absurd passed.ttl (UInt8.not_lt.mpr expired)
    · exact passed.foreign walker member own

end Caused

end Quotes

/-! ## Both ways -/

/-- Sweeps are moves, whether they return or stop. -/
theorem passes_afterSweeps {memory : Memory} {depth : Nat} {sr : SrInstance} {start : Int}
    (early : sr.clock ≤ start) (count : Nat) :
    Passes sr (afterSweeps memory depth sr start count) ∧
      (afterSweeps memory depth sr start count).clock ≤ start + count := by
  induction count with
  | zero => exact ⟨Relation.ReflTransGen.refl, by simpa [afterSweeps] using early⟩
  | succ count inductionHypothesis =>
      obtain ⟨passes, clock⟩ := inductionHypothesis
      have keeps := @keeps_moves_srArpcacheSweepreqs True
        ((afterSweeps memory depth sr start count).atTime (start + count)) memory depth
      have moves := keeps.finalState (Moves.refl _)
      refine ⟨(passes.tail (Or.inr ⟨_, clock, rfl⟩)).trans moves.passes, ?_⟩
      have same : (afterSweeps memory depth sr start (count + 1)).clock = start + count :=
        moves.grows.clock
      rw [same]
      omega

/-- A datagram from 10.0.0.2 to 11.0.0.3, for which there is no route. -/
def strayDatagram : Bytes :=
  [2, 0, 0, 0, 0, 1, 2, 0, 0, 0, 0, 2, 8, 0,
    0x45, 0, 0, 28, 0, 0, 0, 0, 64, 0xfd, 0x64, 0xe1, 10, 0, 0, 2, 11, 0, 0, 3,
    0, 53, 0, 53, 0, 8, 0, 0]

/-- One to 10.0.0.3, through a gateway that does not answer. -/
def vainDatagram : Bytes :=
  [2, 0, 0, 0, 0, 1, 2, 0, 0, 0, 0, 2, 8, 0,
    0x45, 0, 0, 28, 0, 0, 0, 0, 64, 0xfd, 0x65, 0xe1, 10, 0, 0, 2, 10, 0, 0, 3,
    0, 53, 0, 53, 0, 8, 0, 0]

def strayError : Bytes :=
  errorPacketFor noMemory (forwardedFrame noMemory strayDatagram) icmpTypeDestUnreachable
    icmpDestUnreachableNet eth0

def vainError : Bytes :=
  errorPacketFor noMemory (forwardedFrame noMemory vainDatagram) icmpTypeDestUnreachable
    icmpDestUnreachableHost eth0

theorem strayDatagram_accepted : AcceptedFrame noMemory strayDatagram :=
  ⟨by decide, ⟨by decide, by decide, by decide⟩, by decide +kernel⟩

theorem vainDatagram_accepted : AcceptedFrame noMemory vainDatagram :=
  ⟨by decide, ⟨by decide, by decide, by decide⟩, by decide +kernel⟩

theorem causesError_strayDatagram :
    CausesError noMemory 1 smallNetwork strayDatagram eth0.name strayError :=
  .atOnce
    (by decide +kernel :
      (finalState (srHandlepacket noMemory 1 ⟨.frame, strayDatagram⟩ eth0.name)
        smallNetwork).trace = smallNetwork.trace ++
          .icmp .frame icmpTypeDestUnreachable icmpDestUnreachableNet ::
            (finalState (srHandlepacket noMemory 1 ⟨.frame, strayDatagram⟩ eth0.name)
              smallNetwork).trace.drop 1)
    (Or.inr rfl) (by decide +kernel)

def vainNetwork : SrInstance :=
  finalState (srHandlepacket noMemory 1 ⟨.frame, vainDatagram⟩ eth0.name) smallNetwork

/-- It is asked five times for the gateway, for the last time at 108. -/
def vainRequest : SrArpreq where
  id := 0
  ip := lanRoute.gw
  sent := 108
  timesSent := 5
  packets := [⟨1, forwardedFrame noMemory vainDatagram, strncpy srIfaceNamelen eth0.name⟩]

def vainNetworkLater : SrInstance := (afterSweeps noMemory 1 vainNetwork 101 8).atTime 110

theorem passes_vainNetwork : Passes vainNetwork vainNetworkLater := by
  obtain ⟨passes, clock⟩ :=
    @passes_afterSweeps noMemory 1 vainNetwork 101 (by decide +kernel) 8
  exact passes.tail (Or.inr ⟨110, Int.le_trans clock (by decide), rfl⟩)

theorem causesError_vainDatagram :
    CausesError noMemory 1 smallNetwork vainDatagram eth0.name vainError := by
  have live : vainNetworkLater.request? 0 = some vainRequest := by decide +kernel
  have timesOut : ReportsWaiting noMemory 1 vainNetworkLater 0
      ⟨1, forwardedFrame noMemory vainDatagram, strncpy srIfaceNamelen eth0.name⟩
      vainNetworkLater :=
    ⟨vainRequest, [], [], live, by decide +kernel, rfl, rfl⟩
  exact .later
    (by decide +kernel :
      (finalState (srHandlepacket noMemory 1 ⟨.frame, vainDatagram⟩ eth0.name)
        smallNetwork).trace = smallNetwork.trace ++
          .queued lanRoute.gw 0 1 (forwardedFrame noMemory vainDatagram) eth0.name ::
            (finalState (srHandlepacket noMemory 1 ⟨.frame, vainDatagram⟩ eth0.name)
              smallNetwork).trace.drop 1)
    passes_vainNetwork timesOut (by decide +kernel)

theorem strayDatagram_quote_iff :
    icmpData strayError = (strayDatagram.drop sizeofEthernetHdr).take icmpDataSize ↔
      frameTtl noMemory strayDatagram ≤ 1 ∨
        ∃ walker ∈ smallNetwork.ifList, walker.ip = frameDst noMemory strayDatagram :=
  error_quotes_received_iff strayDatagram_accepted (by decide)
    (addressed_srArpcacheInit [eth0] [lanRoute] 100) causesError_strayDatagram

/-- Reported at once or after the time-out, a frame on its way is quoted with the hop
gone and another checksum. -/
theorem forwarded_quotes_differ :
    (42 ≤ strayDatagram.length ∧ AcceptedFrame noMemory strayDatagram ∧
      CausesError noMemory 1 smallNetwork strayDatagram eth0.name strayError ∧
      icmpData strayError ≠ (strayDatagram.drop sizeofEthernetHdr).take icmpDataSize) ∧
    (42 ≤ vainDatagram.length ∧ AcceptedFrame noMemory vainDatagram ∧
      CausesError noMemory 1 smallNetwork vainDatagram eth0.name vainError ∧
      icmpData vainError ≠ (vainDatagram.drop sizeofEthernetHdr).take icmpDataSize) :=
  ⟨⟨by decide, strayDatagram_accepted, causesError_strayDatagram, by decide +kernel⟩,
    ⟨by decide, vainDatagram_accepted, causesError_vainDatagram, by decide +kernel⟩⟩

end Cmput313.Router
