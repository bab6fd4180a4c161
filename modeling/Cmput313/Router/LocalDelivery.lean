import Cmput313.Router.Assertions
import Cmput313.Router.EchoReply
import Cmput313.Router.IcmpError
import Cmput313.Router.Reports

/-!
# Datagrams for the router itself

`sr_handlepacket` tests the time to live before it compares the destination with the
addresses of the router.  A datagram for the router is answered with a hop left, and
reported as expired without.
-/

set_option autoImplicit false

namespace Cmput313.Router

open Cmput313.Bytes Cmput313.Program

section Requests

variable (memory : Memory) (frame : Bytes)

structure IsEchoRequest : Prop where
  icmp : frameProtocol memory frame = ipProtocolIcmp
  request : frameIcmpType memory frame = icmpTypeEchoRequest
  wholeMessage : headerSize memory frame + 8 ≤ frameIpLen memory frame

def IsTransport : Prop :=
  frameProtocol memory frame = ipProtocolTcp ∨ frameProtocol memory frame = ipProtocolUdp

instance : Decidable (IsEchoRequest memory frame) :=
  decidable_of_iff (frameProtocol memory frame = ipProtocolIcmp ∧
      frameIcmpType memory frame = icmpTypeEchoRequest ∧
      headerSize memory frame + 8 ≤ frameIpLen memory frame)
    ⟨fun ⟨icmp, request, whole⟩ => ⟨icmp, request, whole⟩,
      fun echo => ⟨echo.icmp, echo.request, echo.wholeMessage⟩⟩

instance : Decidable (IsTransport memory frame) := inferInstanceAs (Decidable (_ ∨ _))

end Requests

/-- The frame is answered as one for the router, and is not reported as expired. -/
structure DeliveredLocally (memory : Memory) (depth : Nat) (sr : SrInstance) (frame : Bytes)
    (arrival : Name) : Prop where
  completes : NeverAsserts (srHandlepacket memory depth ⟨.frame, frame⟩ arrival) sr
  echo : IsEchoRequest memory frame → ∃ buf,
    emitted (srHandlepacket memory depth ⟨.frame, frame⟩ arrival) sr = some buf ∧
      AnswersEcho memory frame buf
  transport : IsTransport memory frame → ∃ interface buf,
    emitted (srHandlepacket memory depth ⟨.frame, frame⟩ arrival) sr = some buf ∧
      SelfConsistent memory frame icmpTypeDestUnreachable icmpDestUnreachablePort interface buf
  notExpired :
    (finalState (srHandlepacket memory depth ⟨.frame, frame⟩ arrival) sr).reports
      icmpTypeTimeExceeded = sr.reports icmpTypeTimeExceeded

section Delivery

variable {memory : Memory} {sr : SrInstance} {frame : Bytes}
  (accepted : AcceptedFrame memory frame)
  (own : ∃ walker ∈ sr.ifList, walker.ip = frameDst memory frame)
  (depth : Nat) (arrival : Name)

include accepted

theorem AcceptedFrame.reportsExpired (ttl : frameTtl memory frame ≤ 1) :
    (finalState (srHandlepacket memory depth ⟨.frame, frame⟩ arrival) sr).reports
      icmpTypeTimeExceeded ≠ sr.reports icmpTypeTimeExceeded := by
  obtain ⟨accesses, expired⟩ := @AcceptedFrame.expired memory sr frame accepted depth arrival ttl
  obtain ⟨rest, trace⟩ := trace_sendIcmpMsg memory depth ⟨.frame, frame⟩ icmpTypeTimeExceeded 0
    (sr.accessed accesses)
  have report : (Event.icmp .frame icmpTypeTimeExceeded 0).IsReport icmpTypeTimeExceeded := rfl
  rw [finalState, ← expired, ← finalState] at trace
  exact reports_ne_of_trace report trace

theorem AcceptedFrame.neverAsserts_iff (ttl : 1 < frameTtl memory frame) :
    NeverAsserts (srHandlepacket memory depth ⟨.frame, frame⟩ arrival) sr ↔
      frameDst memory frame ≠ 0 := by
  have notArp : ¬ ZeroTarget memory frame := by
    intro zero
    exact absurd (accepted.type.symm.trans zero.2.1) (by decide)
  have long := accepted.wellFormed.long
  rw [neverAsserts_srHandlepacket_iff]
  constructor
  · intro never zero
    exact never.2 ⟨long, accepted.type, accepted.checksum, ttl, zero⟩
  · intro nonzero
    exact ⟨notArp, fun zero => nonzero zero.2.2.2.2⟩

include own

theorem AcceptedFrame.notExpired (ttl : 1 < frameTtl memory frame)
    (nonzero : frameDst memory frame ≠ 0) :
    (finalState (srHandlepacket memory depth ⟨.frame, frame⟩ arrival) sr).reports
      icmpTypeTimeExceeded = sr.reports icmpTypeTimeExceeded := by
  obtain ⟨accesses, delivered⟩ := accepted.passedLocally depth arrival ttl nonzero own
  have keeps := @keeps_reports_deliverLocally memory icmpTypeTimeExceeded sr (by decide)
    (by decide) depth ⟨.frame, frame⟩
  rw [finalState, delivered, ← finalState]
  exact keeps.finalState rfl

theorem AcceptedFrame.emitted_transport (ttl : 1 < frameTtl memory frame)
    (nonzero : frameDst memory frame ≠ 0) (transport : IsTransport memory frame) :
    emitted (srHandlepacket memory depth ⟨.frame, frame⟩ arrival) sr =
      (outgoingRoute sr (frameSrc memory frame)).map fun out =>
        outgoingFrame sr.entries out.1.gw (errorPacketFor memory frame
          icmpTypeDestUnreachable icmpDestUnreachablePort out.2) out.2 := by
  obtain ⟨accesses, delivered⟩ := accepted.passedLocally depth arrival ttl nonzero own
  obtain ⟨later, reported⟩ := @deliverLocally_of_transport memory (handleArpreq memory depth)
    frame transport (sr.accessed accesses)
  rw [accessed_accessed] at reported
  rw [emitted_of_report (noted_accessed sr (accesses ++ later)) (delivered.trans reported),
    emitted_sendIcmpMsg_error (Or.inr rfl)]
  rfl

theorem AcceptedFrame.route_of_deliveredLocally
    (delivered : DeliveredLocally memory depth sr frame arrival)
    (ttl : 1 < frameTtl memory frame) (nonzero : frameDst memory frame ≠ 0)
    (asked : IsEchoRequest memory frame ∨ IsTransport memory frame) :
    (outgoingRoute sr (frameSrc memory frame)).isSome := by
  rcases asked with echo | transport
  · obtain ⟨buf, sent, -⟩ := delivered.echo echo
    have request : EchoRequest memory sr frame :=
      ⟨accepted, echo.wholeMessage, ttl, own, echo.icmp, echo.request⟩
    rw [request.emitted_eq, if_neg nonzero] at sent
    obtain ⟨out, found, -⟩ := Option.map_eq_some_iff.mp sent
    rw [found]
    rfl
  · obtain ⟨interface, buf, sent, -⟩ := delivered.transport transport
    rw [accepted.emitted_transport own depth arrival ttl nonzero transport] at sent
    obtain ⟨out, found, -⟩ := Option.map_eq_some_iff.mp sent
    rw [found]
    rfl

theorem AcceptedFrame.deliveredLocally (ttl : 1 < frameTtl memory frame)
    (nonzero : frameDst memory frame ≠ 0)
    (route : IsEchoRequest memory frame ∨ IsTransport memory frame →
      (outgoingRoute sr (frameSrc memory frame)).isSome) :
    DeliveredLocally memory depth sr frame arrival := by
  constructor
  · exact (accepted.neverAsserts_iff depth arrival ttl).mpr nonzero
  · intro echo
    have request : EchoRequest memory sr frame :=
      ⟨accepted, echo.wholeMessage, ttl, own, echo.icmp, echo.request⟩
    obtain ⟨⟨rtEntry, interface⟩, found⟩ := Option.isSome_iff_exists.mp (route (Or.inl echo))
    refine ⟨_, ?_, request.answers rtEntry interface⟩
    rw [request.emitted_eq, if_neg nonzero, found]
    rfl
  · intro transport
    obtain ⟨⟨rtEntry, interface⟩, found⟩ :=
      Option.isSome_iff_exists.mp (route (Or.inr transport))
    refine ⟨interface, _, ?_, selfConsistent_outgoingFrame accepted.wellFormed.fixed interface
      (Or.inr rfl) sr.entries rtEntry.gw⟩
    rw [accepted.emitted_transport own depth arrival ttl nonzero transport, found]
    rfl
  · exact accepted.notExpired own depth arrival ttl nonzero

/-- A datagram for the router from a sender with a route is delivered exactly when it
has more than one hop left, its destination is not 0.0.0.0, and the route back names an
interface if there is something to answer. -/
theorem deliveredLocally_iff {rtEntry : SrRt}
    (routed : longestPrefixMatching sr.routingTable (frameSrc memory frame) = some rtEntry) :
    DeliveredLocally memory depth sr frame arrival ↔
      1 < frameTtl memory frame ∧ frameDst memory frame ≠ 0 ∧
        (IsEchoRequest memory frame ∨ IsTransport memory frame →
          (srGetInterface sr.ifList rtEntry.interface).isSome) := by
  have route : (outgoingRoute sr (frameSrc memory frame)).isSome =
      (srGetInterface sr.ifList rtEntry.interface).isSome := by
    simp only [outgoingRoute, routed, Option.isSome_map]
  rw [← route]
  constructor
  · intro delivered
    have ttl : 1 < frameTtl memory frame := by
      by_contra expired
      exact accepted.reportsExpired depth arrival (UInt8.not_lt.mp expired)
        delivered.notExpired
    have nonzero := (accepted.neverAsserts_iff depth arrival ttl).mp delivered.completes
    exact ⟨ttl, nonzero,
      accepted.route_of_deliveredLocally own depth arrival delivered ttl nonzero⟩
  · rintro ⟨ttl, nonzero, answerable⟩
    exact accepted.deliveredLocally own depth arrival ttl nonzero answerable

end Delivery

theorem echoRequestFrame_deliveredLocally_iff :
    DeliveredLocally noMemory 1 smallNetwork echoRequestFrame eth0.name ↔
      1 < frameTtl noMemory echoRequestFrame ∧ frameDst noMemory echoRequestFrame ≠ 0 ∧
        (IsEchoRequest noMemory echoRequestFrame ∨ IsTransport noMemory echoRequestFrame →
          (srGetInterface smallNetwork.ifList lanRoute.interface).isSome) :=
  deliveredLocally_iff ⟨by decide, ⟨by decide, by decide, by decide⟩, by decide +kernel⟩
    (by decide) 1 eth0.name (by decide)

def lastHopRequest : Bytes :=
  [2, 0, 0, 0, 0, 1, 2, 0, 0, 0, 0, 2, 8, 0,
    0x45, 0, 0, 29, 0, 0, 0, 0, 1, 1, 0xa5, 0xde, 10, 0, 0, 2, 10, 0, 0, 1,
    8, 0, 0xf6, 0xfc, 0, 1, 0, 2, 1]

/-- A request to the router that needs no further hop is reported as expired. -/
theorem lastHopRequest_not_deliveredLocally :
    (AcceptedFrame noMemory lastHopRequest ∧ 1 ≤ frameTtl noMemory lastHopRequest ∧
      IsEchoRequest noMemory lastHopRequest ∧
      (∃ walker ∈ smallNetwork.ifList, walker.ip = frameDst noMemory lastHopRequest) ∧
      longestPrefixMatching smallNetwork.routingTable (frameSrc noMemory lastHopRequest) =
        some lanRoute) ∧
    ¬ DeliveredLocally noMemory 1 smallNetwork lastHopRequest eth0.name := by
  have accepted : AcceptedFrame noMemory lastHopRequest :=
    ⟨by decide, ⟨by decide, by decide, by decide⟩, by decide +kernel⟩
  refine ⟨⟨accepted, by decide, by decide, by decide, by decide⟩, ?_⟩
  intro delivered
  exact accepted.reportsExpired 1 eth0.name (by decide) delivered.notExpired

end Cmput313.Router
