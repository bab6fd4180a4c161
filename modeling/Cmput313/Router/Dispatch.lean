import Cmput313.Router.Emitted

/-!
# Where `sr_handlepacket` sends an accepted frame

The tests on an IP frame come in a chain: the header checksum, the time to live, the
destination, and for one of the router's own addresses the protocol and the ICMP
type.  One lemma for each exit says with what the run goes on.
-/

set_option autoImplicit false

namespace Cmput313.Router

open Cmput313.Bytes Cmput313.Program

/-- A frame that the first test of `sr_handlepacket` accepts. -/
structure AcceptedFrame (memory : Memory) (frame : Bytes) : Prop where
  type : frameEthertype memory frame = ethertypeIp
  wellFormed : WellFormedDatagram memory frame
  checksum : ChecksumAccepts memory frame (headerSize memory frame)

def localInterface (memory : Memory) (sr : SrInstance) (frame : Bytes) : Option SrIf :=
  sr.ifList.find? fun walker => walker.ip = frameDst memory frame

def frameProtocol (memory : Memory) (frame : Bytes) : UInt8 := peek memory.beyond frame ipP

def frameIcmpType (memory : Memory) (frame : Bytes) : UInt8 :=
  peek memory.beyond frame (sizeofEthernetHdr + headerSize memory frame)

theorem localInterface_isSome_iff (memory : Memory) (sr : SrInstance) (frame : Bytes) :
    (localInterface memory sr frame).isSome ↔
      ∃ walker ∈ sr.ifList, walker.ip = frameDst memory frame := by
  simp [localInterface]

section Exits

variable {memory : Memory} {sr : SrInstance} {frame : Bytes}
  (accepted : AcceptedFrame memory frame) (depth : Nat) (arrival : Name)

include accepted

theorem AcceptedFrame.ends (returned : Unit → SrInstance → Prop)
    (stopped : Fault → SrInstance → Prop) :
    Ends (srHandlepacket memory depth ⟨.frame, frame⟩ arrival) sr returned stopped ↔
      Ends (handleIpFrame memory (handleArpreq memory depth) ⟨.frame, frame⟩)
        (sr.accessed [⟨.frame, etherType, 2⟩]) returned stopped := by
  have long := accepted.wellFormed.long
  have enough : ¬ frame.length < sizeofEthernetHdr := by
    rw [sizeofEthernetHdr]; omega
  have notArp : ¬ ethertypeIp = ethertypeArp := by decide
  rw [ends_srHandlepacket]
  simp only [if_neg enough, accepted.type, if_neg notArp, if_true, touched_eq_accessed]

/-- A frame with no hop left is reported before its destination is looked at. -/
theorem AcceptedFrame.expired (ttl : frameTtl memory frame ≤ 1) :
    ∃ accesses, srHandlepacket memory depth ⟨.frame, frame⟩ arrival sr =
      sendIcmpMsg memory (handleArpreq memory depth) ⟨.frame, frame⟩ icmpTypeTimeExceeded 0
        (sr.accessed accesses) := by
  refine ⟨[⟨.frame, etherType, 2⟩] ++ (headerAccesses memory ⟨.frame, frame⟩ ++
    ttlAccesses ⟨.frame, frame⟩), ?_⟩
  apply result_eq_of_ends_iff
  intro returned stopped
  rw [accepted.ends, ends_handleIpFrame memory _ _ _ _ _ accepted.wellFormed.long]
  simp only [if_pos accepted.checksum, if_pos ttl]
  rw [accessed_accessed]

section Alive

variable (ttl : 1 < frameTtl memory frame)

include ttl

theorem AcceptedFrame.zeroDestination (zero : frameDst memory frame = 0) :
    ∃ accesses, srHandlepacket memory depth ⟨.frame, frame⟩ arrival sr =
      .error (.assertion .ip) (sr.accessed accesses) := by
  refine ⟨[⟨.frame, etherType, 2⟩] ++ (headerAccesses memory ⟨.frame, frame⟩ ++
    ttlAccesses ⟨.frame, frame⟩ ++ dstAccesses ⟨.frame, frame⟩), ?_⟩
  have alive : ¬ frameTtl memory frame ≤ 1 := UInt8.not_le.mpr ttl
  have same : srHandlepacket memory depth ⟨.frame, frame⟩ arrival sr =
      (throw (.assertion .ip) : Sr Unit) (sr.accessed ([⟨.frame, etherType, 2⟩] ++
        (headerAccesses memory ⟨.frame, frame⟩ ++ ttlAccesses ⟨.frame, frame⟩ ++
          dstAccesses ⟨.frame, frame⟩))) := by
    apply result_eq_of_ends_iff
    intro returned stopped
    rw [accepted.ends, ends_handleIpFrame memory _ _ _ _ _ accepted.wellFormed.long]
    simp only [if_pos accepted.checksum, if_neg alive, if_pos zero]
    rw [accessed_accessed, ends_throw]
  exact same

theorem AcceptedFrame.passed (nonzero : frameDst memory frame ≠ 0) :
    ∃ accesses, srHandlepacket memory depth ⟨.frame, frame⟩ arrival sr =
      (match localInterface memory sr frame with
      | some _ => deliverLocally memory (handleArpreq memory depth) ⟨.frame, frame⟩
      | none => srForwardIpPacket memory (handleArpreq memory depth) ⟨.frame, frame⟩)
        (sr.accessed accesses) := by
  refine ⟨[⟨.frame, etherType, 2⟩] ++ (headerAccesses memory ⟨.frame, frame⟩ ++
    ttlAccesses ⟨.frame, frame⟩ ++ dstAccesses ⟨.frame, frame⟩), ?_⟩
  have alive : ¬ frameTtl memory frame ≤ 1 := UInt8.not_le.mpr ttl
  apply result_eq_of_ends_iff
  intro returned stopped
  rw [accepted.ends, ends_handleIpFrame memory _ _ _ _ _ accepted.wellFormed.long]
  simp only [if_pos accepted.checksum, if_neg alive, if_neg nonzero]
  rw [accessed_accessed]
  rfl

theorem AcceptedFrame.passedLocally (nonzero : frameDst memory frame ≠ 0)
    (own : ∃ walker ∈ sr.ifList, walker.ip = frameDst memory frame) :
    ∃ accesses, srHandlepacket memory depth ⟨.frame, frame⟩ arrival sr =
      deliverLocally memory (handleArpreq memory depth) ⟨.frame, frame⟩
        (sr.accessed accesses) := by
  obtain ⟨accesses, passed⟩ := accepted.passed depth arrival ttl nonzero
  obtain ⟨interface, found⟩ := Option.isSome_iff_exists.mp
    ((localInterface_isSome_iff memory sr frame).mpr own)
  rw [found] at passed
  exact ⟨accesses, passed⟩

end Alive

end Exits

/-! ## A datagram for the router itself -/

section Local

variable {memory : Memory} {handle : Nat → Sr Unit} {frame : Bytes}

theorem deliverLocally_of_echoRequest (icmp : frameProtocol memory frame = ipProtocolIcmp)
    (request : frameIcmpType memory frame = icmpTypeEchoRequest) :
    LeadsTo (deliverLocally memory handle ⟨.frame, frame⟩)
      (sendIcmpMsg memory handle ⟨.frame, frame⟩ icmpTypeEchoReply 0) := by
  rw [frameProtocol] at icmp
  rw [frameIcmpType, headerSize] at request
  refine leadsTo_load8 ?_
  rw [if_pos icmp]
  refine leadsTo_load8 (leadsTo_load8 ?_)
  rw [if_pos request]
  exact LeadsTo.refl _

theorem deliverLocally_of_transport (transport : frameProtocol memory frame = ipProtocolTcp ∨
      frameProtocol memory frame = ipProtocolUdp) :
    LeadsTo (deliverLocally memory handle ⟨.frame, frame⟩)
      (sendIcmpMsg memory handle ⟨.frame, frame⟩ icmpTypeDestUnreachable
        icmpDestUnreachablePort) := by
  have notIcmp : ¬ frameProtocol memory frame = ipProtocolIcmp := by
    rcases transport with tcp | udp
    · rw [tcp]; decide
    · rw [udp]; decide
  rw [frameProtocol] at notIcmp transport
  refine leadsTo_load8 ?_
  rw [if_neg notIcmp, if_pos transport]
  exact LeadsTo.refl _

theorem deliverLocally_of_other
    (notRequest : ¬ (frameProtocol memory frame = ipProtocolIcmp ∧
      frameIcmpType memory frame = icmpTypeEchoRequest))
    (notTransport : ¬ (frameProtocol memory frame = ipProtocolTcp ∨
      frameProtocol memory frame = ipProtocolUdp)) :
    LeadsTo (deliverLocally memory handle ⟨.frame, frame⟩) (pure ()) := by
  rw [frameProtocol] at notRequest notTransport
  rw [frameIcmpType, headerSize] at notRequest
  refine leadsTo_load8 ?_
  by_cases icmp : peek memory.beyond frame ipP = ipProtocolIcmp
  · rw [if_pos icmp]
    refine leadsTo_load8 (leadsTo_load8 ?_)
    rw [if_neg fun request => notRequest ⟨icmp, request⟩]
    exact LeadsTo.refl _
  · rw [if_neg icmp, if_neg notTransport]
    exact LeadsTo.refl _

end Local

/-! ## All exits -/

/-- What a call with an accepted frame comes to. -/
inductive Fate (memory : Memory) (depth : Nat) (sr : SrInstance) (frame : Bytes)
    (arrival : Name) : Prop where
  | expired (ttl : frameTtl memory frame ≤ 1) (accesses : List Access)
      (runs : srHandlepacket memory depth ⟨.frame, frame⟩ arrival sr =
        sendIcmpMsg memory (handleArpreq memory depth) ⟨.frame, frame⟩ icmpTypeTimeExceeded 0
          (sr.accessed accesses))
  | answered (own : ∃ walker ∈ sr.ifList, walker.ip = frameDst memory frame)
      (accesses : List Access)
      (runs : srHandlepacket memory depth ⟨.frame, frame⟩ arrival sr =
        sendIcmpMsg memory (handleArpreq memory depth) ⟨.frame, frame⟩ icmpTypeEchoReply 0
          (sr.accessed accesses))
  | unreachablePort (own : ∃ walker ∈ sr.ifList, walker.ip = frameDst memory frame)
      (accesses : List Access)
      (runs : srHandlepacket memory depth ⟨.frame, frame⟩ arrival sr =
        sendIcmpMsg memory (handleArpreq memory depth) ⟨.frame, frame⟩
          icmpTypeDestUnreachable icmpDestUnreachablePort (sr.accessed accesses))
  | dropped (silent : (finalState (srHandlepacket memory depth ⟨.frame, frame⟩ arrival)
      sr).trace = sr.trace)
  | unreachableNet (passed : PassedOn memory sr frame) (accesses : List Access)
      (runs : srHandlepacket memory depth ⟨.frame, frame⟩ arrival sr =
        sendIcmpMsg memory (handleArpreq memory depth) ⟨.frame, forwardedFrame memory frame⟩
          icmpTypeDestUnreachable icmpDestUnreachableNet (sr.accessed accesses))
  | forwarded (passed : PassedOn memory sr frame) (gw : UInt32) (interface : SrIf)
      (accesses : List Access)
      (runs : srHandlepacket memory depth ⟨.frame, frame⟩ arrival sr =
        sendOrQueue (handleArpreq memory depth) gw ⟨.frame, forwardedFrame memory frame⟩
          (some interface) (sr.accessed accesses))

section Fate

variable {memory : Memory} {sr : SrInstance} {frame : Bytes} (depth : Nat) (arrival : Name)

theorem fate_of_deliverLocally
    (own : ∃ walker ∈ sr.ifList, walker.ip = frameDst memory frame) {accesses : List Access}
    (passed : srHandlepacket memory depth ⟨.frame, frame⟩ arrival sr =
      deliverLocally memory (handleArpreq memory depth) ⟨.frame, frame⟩
        (sr.accessed accesses)) :
    Fate memory depth sr frame arrival := by
  by_cases request : frameProtocol memory frame = ipProtocolIcmp ∧
      frameIcmpType memory frame = icmpTypeEchoRequest
  · obtain ⟨later, runs⟩ := @deliverLocally_of_echoRequest memory
      (handleArpreq memory depth) frame request.1 request.2 (sr.accessed accesses)
    exact .answered own _ (passed.trans (runs.trans (by rw [accessed_accessed])))
  by_cases transport : frameProtocol memory frame = ipProtocolTcp ∨
      frameProtocol memory frame = ipProtocolUdp
  · obtain ⟨later, runs⟩ := @deliverLocally_of_transport memory (handleArpreq memory depth)
      frame transport (sr.accessed accesses)
    exact .unreachablePort own _ (passed.trans (runs.trans (by rw [accessed_accessed])))
  · obtain ⟨later, runs⟩ := @deliverLocally_of_other memory (handleArpreq memory depth)
      frame request transport (sr.accessed accesses)
    exact .dropped (by rw [finalState, passed, runs]; rfl)

theorem PassedOn.fate (passed : PassedOn memory sr frame) :
    Fate memory depth sr frame arrival := by
  rcases passed.exits depth arrival with
    silent | ⟨accesses, runs⟩ | ⟨-, route, interface, accesses, -, -, runs⟩
  · exact .dropped silent
  · exact .unreachableNet passed accesses runs
  · exact .forwarded passed route.gw interface accesses runs

theorem AcceptedFrame.fate (accepted : AcceptedFrame memory frame) :
    Fate memory depth sr frame arrival := by
  by_cases ttl : frameTtl memory frame ≤ 1
  · obtain ⟨accesses, runs⟩ := @AcceptedFrame.expired memory sr frame accepted depth arrival ttl
    exact .expired ttl accesses runs
  have alive := UInt8.not_le.mp ttl
  by_cases zero : frameDst memory frame = 0
  · obtain ⟨accesses, stops⟩ :=
      @AcceptedFrame.zeroDestination memory sr frame accepted depth arrival alive zero
    exact .dropped (by rw [finalState, stops]; rfl)
  cases found : localInterface memory sr frame with
  | some interface =>
      obtain ⟨accesses, passed⟩ :=
        @AcceptedFrame.passed memory sr frame accepted depth arrival alive zero
      rw [found] at passed
      exact fate_of_deliverLocally depth arrival
        ((localInterface_isSome_iff memory sr frame).mp (by rw [found]; rfl)) passed
  | none =>
      have wellFormed := accepted.wellFormed
      have wholeHeader := wellFormed.wholeHeader
      have wholeDatagram := wellFormed.wholeDatagram
      have passed : PassedOn memory sr frame :=
        { type := accepted.type
          fixedHeader := wellFormed.fixedHeader
          wholeHeader := by omega
          accepted := accepted.checksum
          ttl := alive
          nonzero := zero
          foreign := by
            intro walker member
            simpa using List.find?_eq_none.mp found walker member }
      exact passed.fate depth arrival

end Fate

end Cmput313.Router
