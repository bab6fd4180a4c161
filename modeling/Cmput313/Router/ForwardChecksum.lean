import Cmput313.Router.IpFrame
import Cmput313.Router.QueueReplay

/-!
# The two checksum tests on a forwarded header

`sr_handlepacket` checks `ip_hl * 4` bytes, `sr_forward_ip_packet` the first 20
of them.  They agree exactly on the headers whose option words vanish in one's
complement arithmetic.
-/

set_option autoImplicit false

namespace Cmput313.Router

open Cmput313.Bytes Cmput313.OnesComplement Cmput313.Program

variable (memory : Memory)

def headerOptions (frame : Bytes) : Bytes :=
  read memory.beyond frame (sizeofEthernetHdr + sizeofIpHdr)
    (headerSize memory frame - sizeofIpHdr)

structure Forwardable (sr : SrInstance) (frame : Bytes) (route : SrRt)
    (interface : SrIf) : Prop where
  fixedHeader : sizeofIpHdr ≤ headerSize memory frame
  wholeHeader : headerSize memory frame ≤ frameIpLen memory frame
  wholeDatagram : sizeofEthernetHdr + frameIpLen memory frame ≤ frame.length
  accepted : ChecksumAccepts memory frame (headerSize memory frame)
  ttl : 1 < frameTtl memory frame
  foreign : ∀ walker ∈ sr.ifList, walker.ip ≠ frameDst memory frame
  routed : longestPrefixMatching sr.routingTable (frameDst memory frame) = some route
  outgoing : srGetInterface sr.ifList route.interface = some interface

theorem Forwardable.long {sr : SrInstance} {frame : Bytes} {route : SrRt}
    {interface : SrIf} (forwardable : Forwardable memory sr frame route interface) :
    34 ≤ frame.length := by
  have fixedHeader := forwardable.fixedHeader
  have wholeHeader := forwardable.wholeHeader
  have wholeDatagram := forwardable.wholeDatagram
  rw [sizeofIpHdr] at fixedHeader
  rw [sizeofEthernetHdr] at wholeDatagram
  omega

/-- The packet is sent through the interface, or waits for the gateway. -/
def Event.Forwards (gw : UInt32) (packet : Bytes) (interface : SrIf) : Event → Prop
  | .sendPacket buf iface =>
      iface = interface.name ∧ ∃ mac, buf = addressedFrame packet mac interface
  | .queued ip _ _ buf iface => ip = gw ∧ buf = packet ∧ iface = interface.name
  | _ => False

def forwardOutcome (depth : Nat) (sr : SrInstance) (frame : Bytes) : SrInstance :=
  finalState (srForwardIpPacket memory (handleArpreq memory depth) ⟨.frame, frame⟩) sr

theorem wordSum_lt_of_length {data : Bytes} (short : data.length ≤ 60) :
    wordSum data < 2 ^ 32 := by
  have bound := wordSum_le data
  omega

theorem headerSize_le (frame : Bytes) : headerSize memory frame ≤ 60 := by
  have bound : (peek memory.beyond frame ipVhl).toNat % 16 < 16 :=
    Nat.mod_lt _ (by decide)
  rw [headerSize, headerLength]
  omega

/-- The second test accepts what the first did exactly when the options vanish. -/
theorem secondCheck_iff {frame : Bytes} (long : 34 ≤ frame.length)
    (fixedHeader : sizeofIpHdr ≤ headerSize memory frame)
    (accepted : ChecksumAccepts memory frame (headerSize memory frame)) :
    ChecksumAccepts memory frame sizeofIpHdr ↔
      wordSum (headerOptions memory frame) ≡ 0 [MOD 65535] := by
  have sumFits : ipSum + (bytes16 0).length ≤ frame.length := by
    rw [ipSum, bytes16_length]; omega
  have sizeBound := headerSize_le memory frame
  obtain ⟨rest, split⟩ := Nat.exists_eq_add_of_le fixedHeader
  have options : read memory.beyond (put frame ipSum (bytes16 0))
      (sizeofEthernetHdr + sizeofIpHdr) rest = headerOptions memory frame := by
    rw [headerOptions, split, Nat.add_sub_cancel_left]
    exact read_put_outside memory.beyond sumFits (Or.inr (by simp [ipSum, sizeofEthernetHdr, sizeofIpHdr]))
  have whole := read_append memory.beyond (put frame ipSum (bytes16 0))
    sizeofEthernetHdr sizeofIpHdr rest
  have fixedLength := read_length memory.beyond (put frame ipSum (bytes16 0))
    sizeofEthernetHdr sizeofIpHdr
  rw [ChecksumAccepts, split, whole, options] at accepted
  rw [ChecksumAccepts, ← accepted]
  generalize read memory.beyond (put frame ipSum (bytes16 0)) sizeofEthernetHdr
    sizeofIpHdr = header at fixedLength ⊢
  have optionsLength : (headerOptions memory frame).length = rest := by
    rw [headerOptions, read_length, split, Nat.add_sub_cancel_left]
  have sum := wordSum_append (headerOptions memory frame) header
    (by rw [fixedLength, sizeofIpHdr])
  rw [split, sizeofIpHdr] at sizeBound
  rw [cksum_eq_iff (wordSum_lt_of_length (by rw [fixedLength, sizeofIpHdr]; omega))
    (wordSum_lt_of_length (by
      rw [List.length_append, fixedLength, optionsLength, sizeofIpHdr]; omega)), sum]
  unfold Nat.ModEq
  omega

theorem srForwardIpPacket_of_routed {sr : SrInstance} {frame : Bytes} {route : SrRt}
    (long : 34 ≤ frame.length) (accepted : ChecksumAccepts memory frame sizeofIpHdr)
    (ttl : 1 < frameTtl memory frame)
    (routed : longestPrefixMatching sr.routingTable (frameDst memory frame) = some route)
    (handle : Nat → Sr Unit) :
    srForwardIpPacket memory handle ⟨.frame, frame⟩ sr =
      sendOrQueue handle route.gw ⟨.frame, forwardedFrame memory frame⟩
        (srGetInterface sr.ifList route.interface)
        (sr.accessed (secondCheckAccesses ⟨.frame, frame⟩ ++
          rewriteAccesses ⟨.frame, frame⟩)) := by
  have alive : ¬ frameTtl memory frame ≤ 1 := UInt8.not_le.mpr ttl
  apply result_eq_of_ends_iff
  intro returned stopped
  rw [ends_srForwardIpPacket memory sr _ ⟨.frame, frame⟩ _ _ long]
  simp only [if_pos accepted, if_neg alive, routed]

theorem srForwardIpPacket_of_unrouted {sr : SrInstance} {frame : Bytes}
    (long : 34 ≤ frame.length) (accepted : ChecksumAccepts memory frame sizeofIpHdr)
    (ttl : 1 < frameTtl memory frame)
    (unrouted : longestPrefixMatching sr.routingTable (frameDst memory frame) = none)
    (handle : Nat → Sr Unit) :
    srForwardIpPacket memory handle ⟨.frame, frame⟩ sr =
      sendIcmpMsg memory handle ⟨.frame, forwardedFrame memory frame⟩
        icmpTypeDestUnreachable icmpDestUnreachableNet
        (sr.accessed (secondCheckAccesses ⟨.frame, frame⟩ ++
          rewriteAccesses ⟨.frame, frame⟩)) := by
  have alive : ¬ frameTtl memory frame ≤ 1 := UInt8.not_le.mpr ttl
  apply result_eq_of_ends_iff
  intro returned stopped
  rw [ends_srForwardIpPacket memory sr _ ⟨.frame, frame⟩ _ _ long]
  simp only [if_pos accepted, if_neg alive, unrouted]

section Outcome

variable {memory} {sr : SrInstance} {frame : Bytes} {route : SrRt} {interface : SrIf}
  (forwardable : Forwardable memory sr frame route interface) (depth : Nat)

include forwardable

theorem forwardOutcome_of_rejected
    (rejected : ¬ ChecksumAccepts memory frame sizeofIpHdr) :
    forwardOutcome memory depth sr frame =
      sr.accessed (secondCheckAccesses ⟨.frame, frame⟩) := by
  have ends : Ends (srForwardIpPacket memory (handleArpreq memory depth)
      ⟨.frame, frame⟩) sr
      (fun _ next => next = sr.accessed (secondCheckAccesses ⟨.frame, frame⟩))
      (fun _ next => next = sr.accessed (secondCheckAccesses ⟨.frame, frame⟩)) := by
    rw [ends_srForwardIpPacket memory sr _ ⟨.frame, frame⟩ _ _ forwardable.long]
    simp only [if_neg rejected]
  exact ends.finalState

theorem srForwardIpPacket_of_accepted
    (accepted : ChecksumAccepts memory frame sizeofIpHdr) :
    srForwardIpPacket memory (handleArpreq memory depth) ⟨.frame, frame⟩ sr =
      sendOrQueue (handleArpreq memory depth) route.gw
        ⟨.frame, forwardedFrame memory frame⟩ (some interface)
        (sr.accessed (secondCheckAccesses ⟨.frame, frame⟩ ++
          rewriteAccesses ⟨.frame, frame⟩)) := by
  rw [srForwardIpPacket_of_routed memory forwardable.long accepted forwardable.ttl
    forwardable.routed, forwardable.outgoing]

theorem forwardOutcome_of_accepted
    (accepted : ChecksumAccepts memory frame sizeofIpHdr) :
    ∃ event ∈ (forwardOutcome memory depth sr frame).trace.drop sr.trace.length,
      event.Forwards route.gw (forwardedFrame memory frame) interface := by
  have noted := noted_accessed sr
    (secondCheckAccesses ⟨.frame, frame⟩ ++ rewriteAccesses ⟨.frame, frame⟩)
  have long : 34 ≤ (forwardedFrame memory frame).length := by
    rw [forwardedFrame_length memory forwardable.long]
    exact forwardable.long
  have tail := srForwardIpPacket_of_accepted forwardable depth accepted
  cases lookup : srArpcacheLookup sr.entries route.gw with
  | some arpEntry =>
      have sent := firstEffect_of_hit noted long lookup tail
      exact ⟨_, sent.mem, rfl, arpEntry.mac, rfl⟩
  | none =>
      have queued := (moves_of_miss noted long lookup tail).2
      exact ⟨_, queued.mem, rfl, rfl, rfl⟩

end Outcome

/-- A forwardable frame is sent or queued exactly when its options vanish in one's
complement arithmetic, and so does the second test accept it; otherwise the frame
is dropped. -/
theorem forwards_iff_options_vanish {sr : SrInstance} {frame : Bytes} {route : SrRt}
    {interface : SrIf} (forwardable : Forwardable memory sr frame route interface)
    (depth : Nat) :
    ((∃ event ∈ (forwardOutcome memory depth sr frame).trace.drop sr.trace.length,
        event.Forwards route.gw (forwardedFrame memory frame) interface) ↔
      wordSum (headerOptions memory frame) ≡ 0 [MOD 65535]) ∧
    (ChecksumAccepts memory frame sizeofIpHdr ↔
      wordSum (headerOptions memory frame) ≡ 0 [MOD 65535]) := by
  have agree := secondCheck_iff memory forwardable.long forwardable.fixedHeader
    forwardable.accepted
  refine ⟨?_, agree⟩
  rw [← agree]
  constructor
  · rintro ⟨event, member, _⟩
    by_contra rejected
    rw [forwardOutcome_of_rejected forwardable depth rejected] at member
    simp [SrInstance.accessed] at member
  · exact forwardOutcome_of_accepted forwardable depth

theorem datagram_forwards :
    ((∃ event ∈ (forwardOutcome noMemory 1 smallNetwork datagram).trace.drop
        smallNetwork.trace.length,
        event.Forwards lanRoute.gw (forwardedFrame noMemory datagram) eth0) ↔
      wordSum (headerOptions noMemory datagram) ≡ 0 [MOD 65535]) ∧
    (ChecksumAccepts noMemory datagram sizeofIpHdr ↔
      wordSum (headerOptions noMemory datagram) ≡ 0 [MOD 65535]) :=
  forwards_iff_options_vanish noMemory
    ⟨by decide +kernel, by decide +kernel, by decide +kernel, by decide +kernel,
      by decide +kernel, by decide +kernel, by decide +kernel, by decide +kernel⟩ 1

def routerAlertDatagram : Bytes :=
  [2, 0, 0, 0, 0, 1, 2, 0, 0, 0, 0, 2, 8, 0,
    0x46, 0, 0, 24, 0, 0, 0, 0, 64, 0xfd, 0xd0, 0xe0, 10, 0, 0, 2, 10, 0, 0, 3,
    0x94, 4, 0, 0]

/-- It passes `sr_handlepacket`'s check, has a route, and is dropped. -/
theorem routerAlertDatagram_dropped :
    Forwardable noMemory smallNetwork routerAlertDatagram lanRoute eth0 ∧
      ¬ ∃ event ∈ (forwardOutcome noMemory 1 smallNetwork routerAlertDatagram).trace.drop
        smallNetwork.trace.length,
        event.Forwards lanRoute.gw (forwardedFrame noMemory routerAlertDatagram)
          eth0 := by
  constructor
  · exact ⟨by decide +kernel, by decide +kernel, by decide +kernel, by decide +kernel,
      by decide +kernel, by decide +kernel, by decide +kernel, by decide +kernel⟩
  · have nothing : (forwardOutcome noMemory 1 smallNetwork routerAlertDatagram).trace.drop
        smallNetwork.trace.length = [] := by decide +kernel
    simp [nothing]

end Cmput313.Router
