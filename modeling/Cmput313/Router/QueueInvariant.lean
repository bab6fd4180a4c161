import Cmput313.Router.Run

/-!
# What every request of the queue satisfies

No two requests wait for one address, each has packets, and each packet is a
whole IP frame that leaves through an existing interface.  The invariant also
speaks of requests that left the queue, because the sweep and a time-out may
still hold a pointer to one.
-/

set_option autoImplicit false

namespace Cmput313.Router

open Cmput313.Keyed Cmput313.Program

structure SrPacket.WellFormed (ifList : List SrIf) (packet : SrPacket) : Prop where
  header : sizeofEthernetHdr + sizeofIpHdr ≤ packet.buf.length
  interface : ∃ interface, srGetInterface ifList packet.iface = some interface

structure SrArpreq.WellFormed (ifList : List SrIf) (req : SrArpreq) : Prop where
  waiting : req.packets ≠ []
  packets : ∀ packet ∈ req.packets, packet.WellFormed ifList
  tries : req.timesSent ≤ 5

structure QueueInvariant (sr : SrInstance) : Prop where
  addressed : Addressed sr
  requests : ∀ req ∈ sr.everyRequest, req.WellFormed sr.ifList
  ips : Distinct SrArpreq.ip sr.requests

theorem SrArpreq.WellFormed.push {ifList : List SrIf} {req : SrArpreq}
    {packet : SrPacket} (tries : req.timesSent ≤ 5)
    (packets : ∀ other ∈ req.packets, other.WellFormed ifList)
    (wellFormed : packet.WellFormed ifList) : (req.push packet).WellFormed ifList where
  waiting := List.cons_ne_nil _ _
  packets := by
    intro other member
    rcases List.mem_cons.mp member with rfl | old
    · exact wellFormed
    · exact packets other old
  tries := tries

theorem QueueInvariant.perm {sr next : SrInstance} (invariant : QueueInvariant sr)
    (same : next.everyRequest.Perm sr.everyRequest)
    (queue : next.requests.Sublist sr.requests) (ifList : next.ifList = sr.ifList)
    (later : sr.nextId ≤ next.nextId) : QueueInvariant next where
  addressed := invariant.addressed.perm same later
  requests := fun req member =>
    ifList ▸ invariant.requests req (same.subset member)
  ips := invariant.ips.sublist (queue.map SrArpreq.ip)

theorem mem_everyRequest_withRequest {sr : SrInstance} {ip : UInt32} {req : SrArpreq}
    (member : req ∈ (sr.withRequest ip).1.everyRequest) :
    req ∈ sr.everyRequest ∨
      req.id = (sr.withRequest ip).2 ∧ req.packets = [] ∧ req.timesSent = 0 := by
  rcases withRequest_cases sr ip with ⟨_, _, _, found⟩ | ⟨_, created⟩
  · rw [found] at member
    exact Or.inl member
  · rw [created] at member ⊢
    rcases List.mem_cons.mp member with rfl | old
    · exact Or.inr ⟨rfl, rfl, rfl⟩
    · exact Or.inl old

theorem distinct_ips_withRequest {sr : SrInstance} (ips : Distinct SrArpreq.ip sr.requests)
    (ip : UInt32) : Distinct SrArpreq.ip (sr.withRequest ip).1.requests := by
  rcases withRequest_cases sr ip with ⟨_, _, _, found⟩ | ⟨absent, created⟩
  · rw [found]
    exact ips
  · rw [created]
    refine List.nodup_cons.mpr ⟨?_, ips⟩
    intro member
    obtain ⟨req, old, same⟩ := List.mem_map.mp member
    exact absent req old same

theorem queueInvariant_enqueue {sr : SrInstance} (invariant : QueueInvariant sr)
    {gw : UInt32} {packet : Bytes} {iface : Name} {interface : SrIf}
    (found : srGetInterface sr.ifList iface = some interface)
    (long : 34 ≤ packet.length) : QueueInvariant (sr.enqueue gw packet iface) where
  addressed := addressed_enqueue invariant.addressed gw packet iface
  requests := by
    obtain ⟨before, req, after, id, _, split, pushed⟩ :=
      enqueue_split invariant.addressed gw packet iface
    have distinct := (addressed_withRequest invariant.addressed gw).1.requests
    rw [split] at distinct
    have others := distinct.split
    rw [(grows_enqueue sr gw packet iface).ifList, pushed]
    have untouched : ∀ other ∈ before ++ after, other.WellFormed sr.ifList := by
      intro other member
      have exists_ : other ∈ (sr.withRequest gw).1.everyRequest := by
        rw [split]
        exact List.perm_middle.symm.subset (List.mem_cons_of_mem _ member)
      rcases mem_everyRequest_withRequest exists_ with old | ⟨same, _⟩
      · exact invariant.requests other old
      · exact absurd (same.trans id.symm) (others other member)
    have reqExists : req ∈ (sr.withRequest gw).1.everyRequest := by
      rw [split]
      exact List.mem_append_right _ (List.mem_cons_self ..)
    have newPacket : SrPacket.WellFormed sr.ifList
        ⟨(sr.withRequest gw).1.nextId, packet, strncpy srIfaceNamelen iface⟩ :=
      ⟨long, interface,
        (srGetInterface_congr _ (cString_strncpy srIfaceNamelen iface)).trans found⟩
    intro other member
    rcases List.mem_cons.mp (List.perm_middle.subset member) with rfl | elsewhere
    · rcases mem_everyRequest_withRequest reqExists with old | ⟨_, empty, unsent⟩
      · have wellFormed := invariant.requests req old
        exact .push wellFormed.tries wellFormed.packets newPacket
      · exact .push (by omega) (by simp [empty]) newPacket
    · exact untouched other elsewhere
  ips := by
    have kept : (sr.enqueue gw packet iface).requests.map SrArpreq.ip =
        (sr.withRequest gw).1.requests.map SrArpreq.ip :=
      map_update SrArpreq.ip fun _ => rfl
    rw [Distinct, kept]
    exact distinct_ips_withRequest invariant.ips gw

theorem queueInvariant_rebroadcast {sr : SrInstance} (invariant : QueueInvariant sr)
    {req : SrArpreq} {interface : SrIf} (live : sr.request? req.id = some req)
    (left : req.timesSent < 5) : QueueInvariant (sr.rebroadcast req interface) where
  addressed := addressed_rebroadcast invariant.addressed req interface
  requests := by
    obtain ⟨member, _⟩ := invariant.addressed.request?_eq_some_iff.mp live
    intro other otherMember
    rw [SrInstance.rebroadcast, everyRequest_updateRequest] at otherMember
    obtain ⟨old, oldMember, ⟨same, rfl⟩ | ⟨_, rfl⟩⟩ := mem_update otherMember
    · have wellFormed := invariant.requests old oldMember
      obtain rfl := invariant.addressed.requests.eq_of_key oldMember member same
      exact ⟨wellFormed.waiting, wellFormed.packets, left⟩
    · exact invariant.requests other oldMember
  ips := by
    have kept : (sr.rebroadcast req interface).requests.map SrArpreq.ip =
        sr.requests.map SrArpreq.ip := map_update SrArpreq.ip fun _ => rfl
    rw [Distinct, kept]
    exact invariant.ips

theorem queueInvariant_unlink {sr : SrInstance} (invariant : QueueInvariant sr)
    {req : SrArpreq} (member : req ∈ sr.requests) : QueueInvariant (sr.unlink req) :=
  invariant.perm
    (everyRequest_unlink (distinct_requests invariant.addressed.requests) member)
    List.filter_sublist rfl (Nat.le_refl _)

theorem Move.preserves_queueInvariant {before after : SrInstance}
    (invariant : QueueInvariant before) (move : Move before after) :
    QueueInvariant after := by
  have unchanged : ∀ next : SrInstance, next.everyRequest = before.everyRequest →
      next.requests = before.requests → next.ifList = before.ifList →
      next.nextId = before.nextId → QueueInvariant next :=
    fun next every queue ifList nextId =>
      invariant.perm (every ▸ List.Perm.refl _) (queue ▸ List.Sublist.refl _) ifList
        (Nat.le_of_eq nextId.symm)
  cases move with
  | touch buf offset size => exact unchanged _ rfl rfl rfl rfl
  | note event isNote => exact unchanged _ rfl rfl rfl rfl
  | send buf iface interface found source => exact unchanged _ rfl rfl rfl rfl
  | queue gw packet iface interface found long miss =>
      exact queueInvariant_enqueue invariant found long
  | broadcast req packet interface live due left first found =>
      exact queueInvariant_rebroadcast invariant live left
  | timeOut id =>
      have recorded := unchanged (before.record (.timedOut id)) rfl rfl rfl rfl
      rcases destroy_cases (before.record (.timedOut id)) id with
        ⟨req, member, _, unlinked⟩ | ⟨_, same⟩
      · rw [unlinked]
        exact queueInvariant_unlink recorded member
      · rw [same]
        exact recorded
  | learn mac ip =>
      rcases learn_cases before mac ip with ⟨req, member, _, learned⟩ | ⟨_, learned⟩
      · have unlinked := queueInvariant_unlink invariant member
        rw [learned]
        exact unlinked.perm (List.Perm.refl _) (List.Sublist.refl _) rfl (Nat.le_refl _)
      · rw [learned]
        exact unchanged _ rfl rfl rfl rfl
  | expire => exact unchanged _ rfl rfl rfl rfl

theorem Moves.preserves_queueInvariant {start sr : SrInstance} (moves : Moves start sr)
    (invariant : QueueInvariant start) : QueueInvariant sr :=
  moves.preserves QueueInvariant invariant fun _ _ before move => move.preserves_queueInvariant before

theorem queueInvariant_atTime {sr : SrInstance} (invariant : QueueInvariant sr)
    (now : Int) : QueueInvariant (sr.atTime now) :=
  invariant.perm (List.Perm.refl _) (List.Sublist.refl _) rfl (Nat.le_refl _)

theorem queueInvariant_srArpcacheInit (ifList : List SrIf) (routingTable : List SrRt)
    (clock : Int) : QueueInvariant (srArpcacheInit ifList routingTable clock) where
  addressed := addressed_srArpcacheInit ifList routingTable clock
  requests := fun _ member => absurd member List.not_mem_nil
  ips := List.nodup_nil

theorem Run.preserves_queueInvariant {start sr : SrInstance} (run : Run start sr)
    (invariant : QueueInvariant start) : QueueInvariant sr :=
  run.preserves QueueInvariant invariant (fun _ now _ before => queueInvariant_atTime before now)
    fun _ _ before move => move.preserves_queueInvariant before

/-- With the invariant, no program of the router reads a missing packet. -/
theorem QueueInvariant.nullPacket_unreachable {sr next : SrInstance} {α : Type}
    {program : Sr α} {good : α → Prop} (invariant : QueueInvariant sr)
    (keeps : KeepsMoves True sr program good) :
    program sr ≠ .error .nullPacket next := by
  intro stops
  obtain ⟨moves, explained⟩ := keeps.of_error (Moves.refl sr) stops
  obtain ⟨req, live, empty⟩ := explained
  have reached := moves.preserves_queueInvariant invariant
  have member := (reached.addressed.request?_eq_some_iff.mp live).1
  exact (reached.requests req member).waiting empty

/-! ## Between the operations of a run -/

/-- In every state of a run the queue is well formed, so that `handle_arpreq` on
one of its requests never misses the packet whose interface it reads. -/
theorem run_queue_wellFormed {ifList : List SrIf} {routingTable : List SrRt}
    {clock : Int} {sr : SrInstance}
    (run : Run (srArpcacheInit ifList routingTable clock) sr) :
    (sr.requests.map SrArpreq.ip).Nodup ∧
      (∀ req ∈ sr.requests,
        req.packets ≠ [] ∧ req.timesSent ≤ 5 ∧
          ∀ packet ∈ req.packets,
            sizeofEthernetHdr + sizeofIpHdr ≤ packet.buf.length ∧
              ∃ interface, srGetInterface ifList packet.iface = some interface) ∧
      ∀ req ∈ sr.requests, ∀ (memory : Memory) (depth : Nat) (now : Int)
        (next : SrInstance),
        handleArpreq memory depth req.id (sr.atTime now) ≠ .error .nullPacket next := by
  have invariant := run.preserves_queueInvariant
    (queueInvariant_srArpcacheInit ifList routingTable clock)
  have interfaces : sr.ifList = ifList := run.ifList
  refine ⟨invariant.ips, ?_, ?_⟩
  · intro req member
    have wellFormed := invariant.requests req (mem_everyRequest_of_mem member)
    rw [interfaces] at wellFormed
    refine ⟨wellFormed.waiting, wellFormed.tries, fun packet waits => ?_⟩
    have packetWellFormed := wellFormed.packets packet waits
    exact ⟨packetWellFormed.header, packetWellFormed.interface⟩
  · intro req member memory depth now next
    exact (queueInvariant_atTime invariant now).nullPacket_unreachable
      (keeps_moves_handleArpreq memory depth req.id)

/-- The network with one waiting datagram. -/
theorem waitingNetwork_queue_wellFormed :
    waitingNetwork.requests.length = 1 ∧
      (waitingNetwork.requests.map SrArpreq.ip).Nodup ∧
      (∀ req ∈ waitingNetwork.requests,
        req.packets ≠ [] ∧ req.timesSent ≤ 5 ∧
          ∀ packet ∈ req.packets,
            sizeofEthernetHdr + sizeofIpHdr ≤ packet.buf.length ∧
              ∃ interface, srGetInterface [eth0] packet.iface = some interface) ∧
      ∀ req ∈ waitingNetwork.requests, ∀ (memory : Memory) (depth : Nat) (now : Int)
        (next : SrInstance),
        handleArpreq memory depth req.id (waitingNetwork.atTime now) ≠
          .error .nullPacket next :=
  ⟨by decide +kernel, run_queue_wellFormed run_waitingNetwork⟩

end Cmput313.Router
