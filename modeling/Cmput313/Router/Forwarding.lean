import Cmput313.Router.HeaderChecksum

/-!
# What is forwarded

A frame that `sr_handlepacket` passes on and `sr_forward_ip_packet` sends or
queues has one hop less to live, a header that would be accepted again, and is
otherwise, behind its Ethernet header, the frame that was received.
-/

set_option autoImplicit false

namespace Cmput313.Router

open Cmput313.Bytes Cmput313.OnesComplement Cmput313.Program

variable (memory : Memory)

/-- An IPv4 frame with its whole header that `sr_handlepacket` passes to
`sr_forward_ip_packet`. -/
structure PassedOn (sr : SrInstance) (frame : Bytes) : Prop where
  type : frameEthertype memory frame = ethertypeIp
  fixedHeader : sizeofIpHdr ≤ headerSize memory frame
  wholeHeader : sizeofEthernetHdr + headerSize memory frame ≤ frame.length
  accepted : ChecksumAccepts memory frame (headerSize memory frame)
  ttl : 1 < frameTtl memory frame
  nonzero : frameDst memory frame ≠ 0
  foreign : ∀ walker ∈ sr.ifList, walker.ip ≠ frameDst memory frame

/-- The datagram of `frame` after one hop. -/
structure Relayed (frame buf : Bytes) : Prop where
  length : buf.length = frame.length
  ttl : (frameTtl memory buf).toNat + 1 = (frameTtl memory frame).toNat
  alive : 1 ≤ frameTtl memory buf
  checksum : ChecksumAccepts memory buf (headerSize memory buf)
  rest : ∀ index, sizeofEthernetHdr ≤ index → index ≠ ipTtl → index ≠ ipSum →
    index ≠ ipSum + 1 → buf[index]? = frame[index]?

/-- What `sr_handlepacket` does first with the frame is no report by ICMP. -/
def Forwards (depth : Nat) (sr : SrInstance) (frame : Bytes) (arrival : Name)
    (event : Event) : Prop :=
  ¬ event.IsNote ∧ ∃ rest,
    (finalState (srHandlepacket memory depth ⟨.frame, frame⟩ arrival) sr).trace =
      sr.trace ++ event :: rest

variable {memory}

theorem PassedOn.long {sr : SrInstance} {frame : Bytes} (passed : PassedOn memory sr frame) :
    34 ≤ frame.length := by
  have fixedHeader := passed.fixedHeader
  have wholeHeader := passed.wholeHeader
  rw [sizeofIpHdr] at fixedHeader
  rw [sizeofEthernetHdr] at wholeHeader
  omega

/-! ## Frames with the same datagram -/

def SameDatagram (memory : Memory) (left right : Bytes) : Prop :=
  ∀ index, sizeofEthernetHdr ≤ index →
    peek memory.beyond left index = peek memory.beyond right index

section SameDatagram

variable {left right : Bytes} (same : SameDatagram memory left right)

include same

theorem SameDatagram.headerSize :
    headerSize memory left = headerSize memory right := by
  rw [Router.headerSize, Router.headerSize, same ipVhl (by decide)]

theorem SameDatagram.headerBytes :
    headerBytes memory left = headerBytes memory right := by
  rw [Router.headerBytes, Router.headerBytes, same.headerSize]
  apply List.map_congr_left
  intro index _
  exact same _ (Nat.le_add_right _ _)

theorem SameDatagram.frameSum : frameSum memory left = frameSum memory right := by
  rw [Router.frameSum, Router.frameSum, peek16, peek16, same ipSum (by decide),
    same (ipSum + 1) (by decide)]

theorem SameDatagram.checksumAccepts (length : left.length = right.length)
    (fixedHeader : sizeofIpHdr ≤ Router.headerSize memory left)
    (wholeHeader : sizeofEthernetHdr + Router.headerSize memory left ≤ left.length) :
    ChecksumAccepts memory left (Router.headerSize memory left) ↔
      ChecksumAccepts memory right (Router.headerSize memory right) := by
  rw [checksumAccepts_iff fixedHeader wholeHeader,
    checksumAccepts_iff (same.headerSize ▸ fixedHeader)
      (same.headerSize ▸ length ▸ wholeHeader),
    same.headerBytes, same.frameSum]

end SameDatagram

theorem sameDatagram_addressedFrame {packet : Bytes} (long : 34 ≤ packet.length) (mac : Mac)
    (interface : SrIf) :
    (addressedFrame packet mac interface).length = packet.length ∧
      SameDatagram memory (addressedFrame packet mac interface) packet ∧
      ∀ index, sizeofEthernetHdr ≤ index →
        (addressedFrame packet mac interface)[index]? = packet[index]? := by
  have dhost : etherDhost + mac.toList.length ≤ packet.length := by
    rw [Vector.length_toList, etherDhost]; omega
  have shost : etherShost + interface.addr.toList.length ≤
      (put packet etherDhost mac.toList).length := by
    rw [put_length dhost, Vector.length_toList, etherShost]; omega
  have behindDhost : ∀ index, sizeofEthernetHdr ≤ index →
      etherDhost + mac.toList.length ≤ index := by
    intro index behind
    rw [Vector.length_toList]
    exact Nat.le_trans (by decide) behind
  have behindShost : ∀ index, sizeofEthernetHdr ≤ index →
      etherShost + interface.addr.toList.length ≤ index := by
    intro index behind
    rw [Vector.length_toList]
    exact Nat.le_trans (by decide) behind
  refine ⟨(put_length shost).trans (put_length dhost), ?_, ?_⟩
  · intro index behind
    rw [addressedFrame, peek_put_outside _ shost (Or.inr (behindShost index behind)),
      peek_put_outside _ dhost (Or.inr (behindDhost index behind))]
  · intro index behind
    rw [addressedFrame, getElem?_put_outside shost (Or.inr (behindShost index behind)),
      getElem?_put_outside dhost (Or.inr (behindDhost index behind))]

theorem addressedFrame_addresses {packet : Bytes} (long : 34 ≤ packet.length) (mac : Mac)
    (interface : SrIf) :
    ((addressedFrame packet mac interface).drop etherDhost).take 6 = mac.toList ∧
      ((addressedFrame packet mac interface).drop etherShost).take 6 =
        interface.addr.toList := by
  have macLength : mac.toList.length = 6 := Vector.length_toList
  have addrLength : interface.addr.toList.length = 6 := Vector.length_toList
  have dhost : etherDhost + mac.toList.length ≤ packet.length := by
    rw [macLength, etherDhost]; omega
  have shost : etherShost + interface.addr.toList.length ≤
      (put packet etherDhost mac.toList).length := by
    rw [put_length dhost, addrLength, etherShost]; omega
  constructor
  · have inside : etherDhost + 6 ≤ (put packet etherDhost mac.toList).length := by
      rw [put_length dhost, etherDhost]; omega
    have own := take_drop_put_self dhost
    rw [macLength] at own
    rw [addressedFrame, take_drop_put_outside shost inside (Or.inl (by decide)), own]
  · have own := take_drop_put_self shost
    rw [addrLength] at own
    exact own

/-! ## The forwarded frame -/

section ForwardedFrame

variable {frame : Bytes} (long : 34 ≤ frame.length)

include long

theorem headerSize_forwardedFrame :
    headerSize memory (forwardedFrame memory frame) = headerSize memory frame := by
  rw [headerSize, headerSize, peek_forwardedFrame memory long (by decide) (by decide)
    (by decide)]

theorem frameTtl_forwardedFrame :
    frameTtl memory (forwardedFrame memory frame) = frameTtl memory frame - 1 := by
  have sumFits : ∀ word : UInt16, ipSum + (bytes16 word).length ≤ frame.length := by
    intro word
    rw [ipSum, bytes16_length]; omega
  have received : peek memory.beyond (put frame ipSum (bytes16 0)) ipTtl =
      frameTtl memory frame :=
    peek_put_outside memory.beyond (sumFits 0) (Or.inl (by decide))
  obtain ⟨cleared, lowered, clearedAgain⟩ :=
    rewritten_length long (frameTtl memory frame - 1)
  have ttlFits : ipTtl + [frameTtl memory frame - 1].length ≤
      (put frame ipSum (bytes16 0)).length := by
    rw [cleared, ipTtl, List.length_singleton]; omega
  rw [frameTtl, forwardedFrame, received,
    peek_put_outside _ (clearedAgain.symm ▸ sumFits _) (Or.inl (by decide)),
    peek_put_outside _ (lowered.symm ▸ sumFits _) (Or.inl (by decide)),
    peek_put_inside _ ttlFits (Nat.le_refl _) (by rw [List.length_singleton]; omega)]
  rfl

/-- A checksum stored over the first 20 bytes is right for all of the header where
the bytes behind them vanish. -/
theorem checksumAccepts_stored {options : Nat} (few : options ≤ 40)
    (vanish : wordSum (read memory.beyond (put frame ipSum (bytes16 0))
      (sizeofEthernetHdr + sizeofIpHdr) options) ≡ 0 [MOD 65535]) :
    ChecksumAccepts memory
      (put (put frame ipSum (bytes16 0)) ipSum
        (bytes16 (cksum (read memory.beyond (put frame ipSum (bytes16 0))
          sizeofEthernetHdr sizeofIpHdr))))
      (sizeofIpHdr + options) := by
  have sumFits : ∀ word : UInt16, ipSum + (bytes16 word).length ≤ frame.length := by
    intro word
    rw [ipSum, bytes16_length]; omega
  have sumFitsAgain : ∀ word : UInt16,
      ipSum + (bytes16 word).length ≤ (put frame ipSum (bytes16 0)).length := by
    intro word
    rw [put_length (sumFits 0)]
    exact sumFits word
  rw [ChecksumAccepts, put_put (sumFitsAgain _) (by rfl), put_put (sumFits 0) (by rfl),
    peek16_put_self _ _ (sumFitsAgain _), read_append]
  have fixedLength := read_length memory.beyond (put frame ipSum (bytes16 0))
    sizeofEthernetHdr sizeofIpHdr
  have optionsLength := read_length memory.beyond (put frame ipSum (bytes16 0))
    (sizeofEthernetHdr + sizeofIpHdr) options
  have sum := wordSum_append (read memory.beyond (put frame ipSum (bytes16 0))
    (sizeofEthernetHdr + sizeofIpHdr) options)
    (read memory.beyond (put frame ipSum (bytes16 0)) sizeofEthernetHdr sizeofIpHdr)
    (by rw [fixedLength, sizeofIpHdr])
  rw [cksum_eq_iff (wordSum_lt_of_length (by
    rw [List.length_append, fixedLength, optionsLength, sizeofIpHdr]; omega))
    (wordSum_lt_of_length (by rw [fixedLength, sizeofIpHdr]; omega)), sum]
  unfold Nat.ModEq at vanish ⊢
  omega

theorem checksumAccepts_forwardedFrame (fixedHeader : sizeofIpHdr ≤ headerSize memory frame)
    (vanish : wordSum (headerOptions memory frame) ≡ 0 [MOD 65535]) :
    ChecksumAccepts memory (forwardedFrame memory frame)
      (headerSize memory (forwardedFrame memory frame)) := by
  have sizeBound := headerSize_le memory frame
  obtain ⟨options, split⟩ := Nat.exists_eq_add_of_le fixedHeader
  rw [split, sizeofIpHdr] at sizeBound
  rw [headerSize_forwardedFrame long, split, forwardedFrame]
  generalize peek memory.beyond (put frame ipSum (bytes16 0)) ipTtl - 1 = ttl
  obtain ⟨cleared, lowered, clearedAgain⟩ := rewritten_length long ttl
  have sumFits : ipSum + (bytes16 0).length ≤ frame.length := by
    rw [ipSum, bytes16_length]; omega
  have ttlFits : ipTtl + [ttl].length ≤ frame.length := by
    rw [ipTtl, List.length_singleton]; omega
  have behindTtl : ipTtl + [ttl].length ≤ sizeofEthernetHdr + sizeofIpHdr := by
    rw [List.length_singleton]; decide
  apply checksumAccepts_stored (lowered.symm ▸ long) (by omega)
  rw [read_put_outside _ (lowered.symm ▸ sumFits) (Or.inr (by decide)),
    read_put_outside _ (cleared.symm ▸ ttlFits) (Or.inr behindTtl),
    read_put_outside _ sumFits (Or.inr (by decide))]
  rw [headerOptions, split, Nat.add_sub_cancel_left] at vanish
  exact vanish

end ForwardedFrame

/-! ## From the received frame to the first effect -/

section PassedOn

variable {sr : SrInstance} {frame : Bytes} (passed : PassedOn memory sr frame)

include passed

theorem PassedOn.relayed (second : ChecksumAccepts memory frame sizeofIpHdr) :
    Relayed memory frame (forwardedFrame memory frame) := by
  have long := passed.long
  have ttl := UInt8.lt_iff_toNat_lt.mp passed.ttl
  have one : (1 : UInt8).toNat = 1 := rfl
  have lowered : (frameTtl memory frame - 1).toNat = (frameTtl memory frame).toNat - 1 := by
    rw [UInt8.toNat_sub_of_le _ _ (UInt8.le_of_lt passed.ttl), one]
  have vanish := (secondCheck_iff memory long passed.fixedHeader passed.accepted).mp second
  refine ⟨forwardedFrame_length memory long, ?_, ?_,
    checksumAccepts_forwardedFrame long passed.fixedHeader vanish, ?_⟩
  · rw [frameTtl_forwardedFrame long, lowered]
    omega
  · rw [frameTtl_forwardedFrame long, UInt8.le_iff_toNat_le, lowered]
    omega
  · intro index _ notTtl notSum notSumLow
    exact getElem?_forwardedFrame memory long notTtl notSum notSumLow

theorem PassedOn.relayed_addressed (second : ChecksumAccepts memory frame sizeofIpHdr)
    (mac : Mac) (interface : SrIf) :
    Relayed memory frame
      (addressedFrame (forwardedFrame memory frame) mac interface) := by
  have relayed := passed.relayed second
  have long : 34 ≤ (forwardedFrame memory frame).length := by
    rw [relayed.length]
    exact passed.long
  obtain ⟨length, same, rest⟩ := @sameDatagram_addressedFrame memory _ long mac interface
  have size := @headerSize_forwardedFrame memory _ passed.long
  have ttl : frameTtl memory (addressedFrame (forwardedFrame memory frame) mac interface) =
      frameTtl memory (forwardedFrame memory frame) := same ipTtl (by decide)
  refine ⟨length.trans relayed.length, ttl ▸ relayed.ttl, ttl ▸ relayed.alive, ?_, ?_⟩
  · refine (same.checksumAccepts length ?_ ?_).mpr relayed.checksum
    · rw [same.headerSize, size]
      exact passed.fixedHeader
    · rw [same.headerSize, size, length, relayed.length]
      exact passed.wholeHeader
  · intro index behind notTtl notSum notSumLow
    rw [rest index behind, relayed.rest index behind notTtl notSum notSumLow]

theorem PassedOn.handler_forwards (depth : Nat) (arrival : Name) :
    ∃ accesses, srHandlepacket memory depth ⟨.frame, frame⟩ arrival sr =
      srForwardIpPacket memory (handleArpreq memory depth) ⟨.frame, frame⟩
        (sr.accessed accesses) := by
  have long := passed.long
  have enough : ¬ frame.length < sizeofEthernetHdr := by
    rw [sizeofEthernetHdr]; omega
  have notArp : ¬ ethertypeIp = ethertypeArp := by decide
  have alive : ¬ frameTtl memory frame ≤ 1 := UInt8.not_le.mpr passed.ttl
  have nobody : ((sr.touched ⟨.frame, frame⟩ etherType 2).ifList.find? fun walker =>
      walker.ip = frameDst memory frame) = none :=
    List.find?_eq_none.mpr fun walker member => by simpa using passed.foreign walker member
  refine ⟨[⟨.frame, etherType, 2⟩] ++ (headerAccesses memory ⟨.frame, frame⟩ ++
    ttlAccesses ⟨.frame, frame⟩ ++ dstAccesses ⟨.frame, frame⟩), ?_⟩
  apply result_eq_of_ends_iff
  intro returned stopped
  rw [ends_srHandlepacket]
  simp only [if_neg enough, passed.type, if_neg notArp, if_true]
  rw [ends_handleIpFrame memory _ _ _ _ _ long]
  simp only [if_pos passed.accepted, if_neg alive, if_neg passed.nonzero, nobody]
  rw [touched_eq_accessed, accessed_accessed]

theorem PassedOn.exits (depth : Nat) (arrival : Name) :
    (finalState (srHandlepacket memory depth ⟨.frame, frame⟩ arrival) sr).trace = sr.trace ∨
    (∃ accesses, srHandlepacket memory depth ⟨.frame, frame⟩ arrival sr =
      sendIcmpMsg memory (handleArpreq memory depth) ⟨.frame, forwardedFrame memory frame⟩
        icmpTypeDestUnreachable icmpDestUnreachableNet (sr.accessed accesses)) ∨
    ChecksumAccepts memory frame sizeofIpHdr ∧ ∃ route interface accesses,
      longestPrefixMatching sr.routingTable (frameDst memory frame) = some route ∧
      srGetInterface sr.ifList route.interface = some interface ∧
      srHandlepacket memory depth ⟨.frame, frame⟩ arrival sr =
        sendOrQueue (handleArpreq memory depth) route.gw
          ⟨.frame, forwardedFrame memory frame⟩ (some interface) (sr.accessed accesses) := by
  obtain ⟨accesses, handed⟩ := passed.handler_forwards depth arrival
  by_cases second : ChecksumAccepts memory frame sizeofIpHdr
  · cases routed : longestPrefixMatching sr.routingTable (frameDst memory frame) with
    | none =>
        have reported := @srForwardIpPacket_of_unrouted memory (sr.accessed accesses) frame
          passed.long second passed.ttl routed (handleArpreq memory depth)
        rw [accessed_accessed] at reported
        exact Or.inr (Or.inl ⟨_, handed.trans reported⟩)
    | some route =>
        have tail := @srForwardIpPacket_of_routed memory (sr.accessed accesses) frame route
          passed.long second passed.ttl routed (handleArpreq memory depth)
        rw [accessed_accessed] at tail
        change srForwardIpPacket _ _ _ _ = sendOrQueue _ _ _
          (srGetInterface sr.ifList route.interface) _ at tail
        cases outgoing : srGetInterface sr.ifList route.interface with
        | none =>
            rw [outgoing] at tail
            have stops := Ends.finalState (ends_sendOrQueue_none (sr.accessed (accesses ++
              (secondCheckAccesses ⟨.frame, frame⟩ ++ rewriteAccesses ⟨.frame, frame⟩)))
              (handleArpreq memory depth) route.gw ⟨.frame, forwardedFrame memory frame⟩)
            rw [finalState, ← tail, ← handed, ← finalState] at stops
            exact Or.inl stops
        | some interface =>
            rw [outgoing] at tail
            exact Or.inr (Or.inr
              ⟨second, route, interface, _, rfl, outgoing, handed.trans tail⟩)
  · have dropped : Ends (srForwardIpPacket memory (handleArpreq memory depth) ⟨.frame, frame⟩)
        (sr.accessed accesses) (fun _ next => next.trace = sr.trace)
        (fun _ next => next.trace = sr.trace) := by
      rw [ends_srForwardIpPacket memory _ _ _ _ _ passed.long, if_neg second]
      rfl
    have stops := dropped.finalState
    rw [finalState, ← handed, ← finalState] at stops
    exact Or.inl stops

theorem PassedOn.comes_to_tail {depth : Nat} {arrival : Name} {event : Event}
    (forwards : Forwards memory depth sr frame arrival event) :
    ChecksumAccepts memory frame sizeofIpHdr ∧ ∃ route interface accesses,
      longestPrefixMatching sr.routingTable (frameDst memory frame) = some route ∧
      srGetInterface sr.ifList route.interface = some interface ∧
      srHandlepacket memory depth ⟨.frame, frame⟩ arrival sr =
        sendOrQueue (handleArpreq memory depth) route.gw
          ⟨.frame, forwardedFrame memory frame⟩ (some interface) (sr.accessed accesses) := by
  obtain ⟨effect, rest, trace⟩ := forwards
  rcases passed.exits depth arrival with silent | ⟨accesses, reported⟩ | tail
  · exact absurd (trace.symm.trans silent) (by simp)
  · -- the report is a note, and stands first
    obtain ⟨later, reportTrace⟩ := trace_sendIcmpMsg memory depth
      ⟨.frame, forwardedFrame memory frame⟩ icmpTypeDestUnreachable icmpDestUnreachableNet
      (sr.accessed accesses)
    rw [finalState, ← reported, ← finalState, trace] at reportTrace
    have first := (List.cons.inj (List.append_cancel_left reportTrace)).1
    exact absurd (first ▸ event_icmp_isNote _ _ _) effect
  · exact tail

/-- What `sr_handlepacket` forwards is the received datagram one hop later, with a
header its own test accepts.  It is sent to the cached hardware address of the
route's gateway through the route's interface, or it waits for that gateway. -/
theorem forwarded_datagram_relayed {depth : Nat} {arrival : Name} {event : Event}
    (forwards : Forwards memory depth sr frame arrival event) :
    ∃ route interface buf,
      longestPrefixMatching sr.routingTable (frameDst memory frame) = some route ∧
      srGetInterface sr.ifList route.interface = some interface ∧
      Relayed memory frame buf ∧
      ((∃ arpEntry, srArpcacheLookup sr.entries route.gw = some arpEntry ∧
          event = .sendPacket buf interface.name ∧
          (buf.drop etherDhost).take 6 = arpEntry.mac.toList ∧
          (buf.drop etherShost).take 6 = interface.addr.toList) ∨
        (srArpcacheLookup sr.entries route.gw = none ∧
          ∃ accesses, event = .queued route.gw (sr.withRequest route.gw).2
              (sr.withRequest route.gw).1.nextId buf interface.name ∧
            Moves ((sr.accessed accesses).enqueue route.gw buf interface.name)
              (finalState (srHandlepacket memory depth ⟨.frame, frame⟩ arrival) sr))) := by
  have long : 34 ≤ (forwardedFrame memory frame).length := by
    rw [forwardedFrame_length memory passed.long]
    exact passed.long
  obtain ⟨second, route, interface, accesses, routed, outgoing, tail⟩ := passed.comes_to_tail forwards
  have noted := noted_accessed sr accesses
  obtain ⟨effect, rest, trace⟩ := forwards
  have own : FirstEffect (srHandlepacket memory depth ⟨.frame, frame⟩ arrival) sr event :=
    ⟨[], rest, trace, fun _ member => absurd member List.not_mem_nil⟩
  cases lookup : srArpcacheLookup sr.entries route.gw with
  | some arpEntry =>
      have sent := firstEffect_of_hit noted long lookup tail
      have same := own.unique effect sent fun note => note
      refine ⟨route, interface, _, routed, outgoing,
        passed.relayed_addressed second arpEntry.mac interface, Or.inl
          ⟨arpEntry, lookup, same, addressedFrame_addresses long arpEntry.mac interface⟩⟩
  | none =>
      obtain ⟨moves, queued⟩ := moves_of_miss noted long lookup tail
      have same := own.unique effect queued fun note => note
      have request : (sr.accessed accesses).withRequest route.gw =
          ((sr.withRequest route.gw).1.accessed accesses, (sr.withRequest route.gw).2) := by
        simp only [SrInstance.withRequest, SrInstance.accessed]
        cases sr.requests.find? fun req => req.ip = route.gw with
        | none => rfl
        | some req => rfl
      rw [request] at same
      exact ⟨route, interface, _, routed, outgoing, passed.relayed second,
        Or.inr ⟨lookup, accesses, same, moves⟩⟩

end PassedOn

def knownGateway : SrInstance :=
  smallNetwork.withEntries (insertMapping smallNetwork.entries gatewayMac lanRoute.gw 100)

theorem knownGateway_relays_datagram :
    ∃ route interface buf,
      longestPrefixMatching knownGateway.routingTable (frameDst noMemory datagram) =
        some route ∧
      srGetInterface knownGateway.ifList route.interface = some interface ∧
      Relayed noMemory datagram buf ∧
      ((∃ arpEntry, srArpcacheLookup knownGateway.entries route.gw = some arpEntry ∧
          Event.sendPacket (addressedFrame forwardedDatagram gatewayMac eth0) eth0.name =
            .sendPacket buf interface.name ∧
          (buf.drop etherDhost).take 6 = arpEntry.mac.toList ∧
          (buf.drop etherShost).take 6 = interface.addr.toList) ∨
        (srArpcacheLookup knownGateway.entries route.gw = none ∧
          ∃ accesses, Event.sendPacket
                (addressedFrame forwardedDatagram gatewayMac eth0) eth0.name =
              .queued route.gw (knownGateway.withRequest route.gw).2
                (knownGateway.withRequest route.gw).1.nextId buf interface.name ∧
            Moves ((knownGateway.accessed accesses).enqueue route.gw buf interface.name)
              (finalState (srHandlepacket noMemory 1 ⟨.frame, datagram⟩ eth0.name)
                knownGateway))) :=
  forwarded_datagram_relayed
    ⟨by decide +kernel, by decide +kernel, by decide +kernel, by decide +kernel,
      by decide +kernel, by decide +kernel, by decide +kernel⟩
    ⟨fun note => note, _, (by decide +kernel :
      (finalState (srHandlepacket noMemory 1 ⟨.frame, datagram⟩ eth0.name)
        knownGateway).trace = knownGateway.trace ++
          [.sendPacket (addressedFrame forwardedDatagram gatewayMac eth0) eth0.name,
            .wire (packetMessage (addressedFrame forwardedDatagram gatewayMac eth0)
              eth0.name)])⟩

end Cmput313.Router
