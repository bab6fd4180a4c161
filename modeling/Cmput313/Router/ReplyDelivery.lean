import Cmput313.Router.QueueReplay

/-!
# What an ARP reply delivers

A reply for one of the router's addresses sends every packet that waited for its
sender, once each, and takes that one request off the queue.
-/

set_option autoImplicit false

namespace Cmput313.Router

open Cmput313.Bytes Cmput313.Keyed Cmput313.Program

def Event.sent? : Event → Option (Bytes × Name)
  | .sendPacket buf iface => some (buf, iface)
  | _ => none

def SrInstance.sends (sr : SrInstance) : List (Bytes × Name) := sr.trace.filterMap Event.sent?

/-- The packet goes out on its own interface, from that interface's hardware address
to `sha`, its other bytes as they were queued. -/
def Delivers (ifList : List SrIf) (sha : Bytes) (packet : SrPacket) (sent : Bytes × Name) :
    Prop :=
  ∃ interface, srGetInterface ifList packet.iface = some interface ∧
    sent = (sha ++ interface.addr.toList ++ packet.buf.drop 12, packet.iface)

theorem addressedFrame_eq {packet : Bytes} (room : etherShost + 6 ≤ packet.length) (mac : Mac)
    (interface : SrIf) :
    addressedFrame packet mac interface =
      mac.toList ++ interface.addr.toList ++ packet.drop 12 := by
  have macLength : mac.toList.length = 6 := Vector.length_toList
  have addrLength : interface.addr.toList.length = 6 := Vector.length_toList
  have row : Contiguous 0 [(etherDhost, mac.toList), (etherShost, interface.addr.toList)] := by
    simp [Contiguous, etherDhost, etherShost]
  have whole := putAll_contiguous _ 0 packet row (by simpa [etherShost] using room)
  simp only [List.flatMap_cons, List.flatMap_nil, List.append_nil, List.take_zero,
    List.nil_append, List.length_append, macLength, addrLength, Nat.zero_add] at whole
  exact whole

theorem sent_deliveryEvents {ifList : List SrIf} {packet : SrPacket}
    (deliverable : packet.Deliverable ifList) (mac : Mac) :
    ∃ sent, (deliveryEvents ifList mac packet).filterMap Event.sent? = [sent] ∧
      Delivers ifList mac.toList packet sent := by
  obtain ⟨interface, found⟩ := deliverable.interface
  refine ⟨_, ?_, interface, found, rfl⟩
  rw [deliveryEvents, found]
  simp only [sendEvents, addressedFrame_eq deliverable.addresses]
  split <;> rfl

theorem sent_deliveries {ifList : List SrIf} (mac : Mac) :
    ∀ packets : List SrPacket, (∀ packet ∈ packets, packet.Deliverable ifList) →
      List.Forall₂ (Delivers ifList mac.toList) packets
        ((packets.flatMap (deliveryEvents ifList mac)).filterMap Event.sent?) := by
  intro packets
  induction packets with
  | nil => exact fun _ => List.Forall₂.nil
  | cons packet rest inductionHypothesis =>
      intro deliverable
      obtain ⟨sent, events, delivers⟩ :=
        sent_deliveryEvents (deliverable packet (List.mem_cons_self ..)) mac
      rw [List.flatMap_cons, List.filterMap_append, events, List.singleton_append]
      exact .cons delivers (inductionHypothesis fun other member =>
        deliverable other (List.mem_cons_of_mem _ member))

theorem ArpReply.sha_eq {memory : Memory} {sr : SrInstance} {frame : Bytes} {gw : UInt32}
    {mac : Mac} (reply : ArpReply memory sr frame gw mac) :
    mac.toList = (frame.drop arSha).take 6 := by
  have whole : 42 ≤ frame.length := reply.whole
  rw [← reply.sha, ← read_of_le memory.beyond frame (by rw [arSha]; omega), Vector.toList_ofFn]
  rfl

/-- A reply whose sender is asked for sends the packets of that request, one after
another, and takes the request off the queue; any other leaves queue and wire alone. -/
theorem ArpReply.delivered {memory : Memory} {sr : SrInstance} {frame : Bytes} {gw : UInt32}
    {mac : Mac} (reply : ArpReply memory sr frame gw mac)
    (addresses : Distinct SrArpreq.id sr.requests) (ips : Distinct SrArpreq.ip sr.requests)
    (deliverable : ∀ req ∈ sr.requests, ∀ packet ∈ req.packets,
      packet.Deliverable sr.ifList) (depth : Nat) (arrival : Name) :
    ∃ next, srHandlepacket memory depth ⟨.frame, frame⟩ arrival sr = .ok () next ∧
      (∀ before req after, sr.requests = before ++ req :: after → req.ip = gw →
        next.requests = before ++ after ∧
          ∃ sent, next.sends = sr.sends ++ sent ∧
            List.Forall₂ (Delivers sr.ifList ((frame.drop arSha).take 6))
              req.packets sent) ∧
      ((∀ req ∈ sr.requests, req.ip ≠ gw) →
        next.requests = sr.requests ∧ next.sends = sr.sends) := by
  let touched := sr.accessed [⟨.frame, etherType, 2⟩, ⟨.frame, arTip, 4⟩, ⟨.frame, arOp, 2⟩]
  cases found : (sr.requests.find? fun req =>
      req.ip = peek32 memory.beyond frame arSip) with
  | none =>
      have ends := (reply.ends_srHandlepacket depth arrival _ _).mpr
        (@ends_acceptArpReply_unasked memory touched ⟨.frame, frame⟩ found fun _ _ => False)
      obtain ⟨_, next, run, requests, trace⟩ := ends.exists_ok
      refine ⟨next, run, ?_, fun _ => ⟨requests, congrArg (List.filterMap Event.sent?) trace⟩⟩
      intro before req after split sameIp
      have member : req ∈ sr.requests := split ▸ List.mem_append_right _ (List.mem_cons_self ..)
      have absent := List.find?_eq_none.mp found req member
      rw [reply.sender] at absent
      exact absurd sameIp (by simpa using absent)
  | some req =>
      have member := List.mem_of_find?_eq_some found
      have sameIp : req.ip = gw := by
        rw [← reply.sender]
        simpa using List.find?_some found
      have ends := (reply.ends_srHandlepacket depth arrival _ _).mpr
        (@ends_acceptArpReply memory touched ⟨.frame, frame⟩ req found
          (deliverable req member) fun _ _ => False)
      obtain ⟨_, next, run, requests, trace⟩ := ends.exists_ok
      refine ⟨next, run, ?_, fun others => absurd sameIp (others req member)⟩
      intro before other after split otherIp
      have otherMember : other ∈ sr.requests :=
        split ▸ List.mem_append_right _ (List.mem_cons_self ..)
      obtain rfl : other = req :=
        ips.eq_of_key otherMember member (otherIp.trans sameIp.symm)
      constructor
      · have removed := requests
        change next.requests = remove SrArpreq.id other.id sr.requests at removed
        rw [split] at addresses removed
        rw [removed, addresses.remove_split]
      · refine ⟨_, ?_, reply.sha_eq ▸ sent_deliveries mac other.packets (deliverable other member)⟩
        rw [reply.sha] at trace
        rw [SrInstance.sends, trace, List.filterMap_append]
        rfl

theorem gatewayReply_delivered :
    ∃ next, srHandlepacket noMemory 1 ⟨.frame, arpReplyFrom 9 9⟩ eth0.name waitingNetwork =
        .ok () next ∧
      (∀ before req after, waitingNetwork.requests = before ++ req :: after →
        req.ip = lanRoute.gw →
        next.requests = before ++ after ∧
          ∃ sent, next.sends = waitingNetwork.sends ++ sent ∧
            List.Forall₂ (Delivers waitingNetwork.ifList
              (((arpReplyFrom 9 9).drop arSha).take 6)) req.packets sent) ∧
      ((∀ req ∈ waitingNetwork.requests, req.ip ≠ lanRoute.gw) →
        next.requests = waitingNetwork.requests ∧ next.sends = waitingNetwork.sends) := by
  have invariant := run_waitingNetwork.preserves_queueInvariant
    (queueInvariant_srArpcacheInit [eth0] [lanRoute] 100)
  have reply : ArpReply noMemory waitingNetwork (arpReplyFrom 9 9) lanRoute.gw gatewayMac := by
    refine ⟨by decide, by decide, by decide, by decide, ⟨eth0, ?_, by decide⟩, by decide,
      by decide⟩
    rw [run_waitingNetwork.ifList]
    exact List.mem_singleton_self _
  exact reply.delivered (distinct_requests invariant.addressed.requests) invariant.ips
    (fun req member packet waits => ((invariant.requests req
      (mem_everyRequest_of_mem member)).packets packet waits).deliverable) 1 eth0.name

end Cmput313.Router
