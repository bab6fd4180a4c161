import Cmput313.Lib.Keyed
import Cmput313.Router.Moves

/-!
# Requests and their addresses

The requests that exist, on the queue or off it, have distinct addresses, and so
have the packets that wait in them.  `Addressed` says so, and every move keeps it.
-/

set_option autoImplicit false

namespace Cmput313.Router

open Cmput313.Keyed

def SrInstance.everyRequest (sr : SrInstance) : List SrArpreq :=
  sr.requests ++ sr.detached.map Prod.fst

def packetIds (requests : List SrArpreq) : List Nat :=
  requests.flatMap fun req => req.packets.map SrPacket.id

structure Addressed (sr : SrInstance) : Prop where
  requests : Distinct SrArpreq.id sr.everyRequest
  packets : (packetIds sr.everyRequest).Nodup
  fresh : ∀ req ∈ sr.everyRequest, req.id < sr.nextId
  freshPackets : ∀ id ∈ packetIds sr.everyRequest, id < sr.nextId

theorem Addressed.request?_eq_some_iff {sr : SrInstance} (addressed : Addressed sr)
    {id : Nat} {req : SrArpreq} :
    sr.request? id = some req ↔ req ∈ sr.everyRequest ∧ req.id = id :=
  addressed.requests.lookup_eq_some_iff

theorem mem_everyRequest_of_mem {sr : SrInstance} {req : SrArpreq}
    (member : req ∈ sr.requests) : req ∈ sr.everyRequest :=
  List.mem_append_left _ member

/-! ## What each change does to the requests -/

@[simp] theorem everyRequest_record (sr : SrInstance) (event : Event) :
    (sr.record event).everyRequest = sr.everyRequest := rfl

theorem everyRequest_updateRequest (sr : SrInstance) (id : Nat)
    (change : SrArpreq → SrArpreq) :
    (sr.updateRequest id change).everyRequest =
      update SrArpreq.id id change sr.everyRequest := by
  rw [SrInstance.everyRequest, SrInstance.everyRequest, update_append]
  refine congrArg₂ (· ++ ·) rfl ?_
  rw [SrInstance.updateRequest, update, List.map_map, List.map_map]
  apply List.map_congr_left
  intro left _
  simp only [Function.comp_apply]
  split <;> rfl

theorem withRequest_cases (sr : SrInstance) (ip : UInt32) :
    (∃ req ∈ sr.requests, req.ip = ip ∧ sr.withRequest ip = (sr, req.id)) ∨
      ((∀ req ∈ sr.requests, req.ip ≠ ip) ∧
        sr.withRequest ip =
          ({ sr with
              nextId := sr.nextId + 1
              requests :=
                { id := sr.nextId, ip, sent := 0, timesSent := 0, packets := [] } ::
                  sr.requests },
            sr.nextId)) := by
  rcases find_key_cases SrArpreq.ip ip sr.requests with
    ⟨req, member, same, found⟩ | ⟨absent, found⟩
  · exact Or.inl ⟨req, member, same, by rw [SrInstance.withRequest, found]⟩
  · exact Or.inr ⟨absent, by rw [SrInstance.withRequest, found]⟩

theorem everyRequest_unlink {sr : SrInstance} (distinct : Distinct SrArpreq.id sr.requests)
    {req : SrArpreq} (member : req ∈ sr.requests) :
    (sr.unlink req).everyRequest.Perm sr.everyRequest := by
  obtain ⟨before, after, split⟩ := List.append_of_mem member
  rw [split] at distinct
  have removed := distinct.remove_split
  rw [remove] at removed
  simp only [SrInstance.everyRequest, SrInstance.unlink, split, removed,
    List.map_cons]
  rw [List.append_assoc, List.append_assoc, List.cons_append]
  exact (List.perm_middle.append_left before)

theorem destroy_cases (sr : SrInstance) (id : Nat) :
    (∃ req ∈ sr.requests, req.id = id ∧ sr.destroy id = sr.unlink req) ∨
      ((∀ req ∈ sr.requests, req.id ≠ id) ∧ sr.destroy id = sr) := by
  rcases find_key_cases SrArpreq.id id sr.requests with
    ⟨req, member, same, found⟩ | ⟨absent, found⟩
  · exact Or.inl ⟨req, member, same, by rw [SrInstance.destroy, found]⟩
  · exact Or.inr ⟨absent, by rw [SrInstance.destroy, found]⟩

theorem distinct_requests {sr : SrInstance} (distinct : Distinct SrArpreq.id sr.everyRequest) :
    Distinct SrArpreq.id sr.requests := by
  rw [Distinct, SrInstance.everyRequest, List.map_append] at distinct
  exact (List.nodup_append.mp distinct).1

/-! ## Addresses stay distinct -/

theorem Addressed.perm {sr next : SrInstance} (addressed : Addressed sr)
    (same : next.everyRequest.Perm sr.everyRequest) (later : sr.nextId ≤ next.nextId) :
    Addressed next where
  requests := addressed.requests.perm same.symm
  packets := (same.flatMap_right _).nodup_iff.mpr addressed.packets
  fresh := fun req member =>
    Nat.lt_of_lt_of_le (addressed.fresh req (same.subset member)) later
  freshPackets := fun id member =>
    Nat.lt_of_lt_of_le
      (addressed.freshPackets id ((same.flatMap_right _).subset member)) later

theorem addressed_updateRequest {sr : SrInstance} (addressed : Addressed sr) (id : Nat)
    {change : SrArpreq → SrArpreq} (keepsId : ∀ req, (change req).id = req.id)
    (keepsPackets : ∀ req, (change req).packets = req.packets) :
    Addressed (sr.updateRequest id change) := by
  have every := everyRequest_updateRequest sr id change
  have ids : packetIds (sr.updateRequest id change).everyRequest =
      packetIds sr.everyRequest := by
    have kept : (update SrArpreq.id id change sr.everyRequest).map
          (fun req => req.packets.map SrPacket.id) =
        sr.everyRequest.map fun req => req.packets.map SrPacket.id :=
      map_update _ fun req => congrArg (List.map SrPacket.id) (keepsPackets req)
    rw [packetIds, packetIds, List.flatMap, List.flatMap, every, kept]
  refine ⟨?_, ids ▸ addressed.packets, ?_, ids ▸ addressed.freshPackets⟩
  · rw [Distinct, every, map_update _ keepsId]
    exact addressed.requests
  · intro req member
    rw [every] at member
    obtain ⟨old, oldMember, ⟨_, rfl⟩ | ⟨_, rfl⟩⟩ := mem_update member
    · exact keepsId old ▸ addressed.fresh old oldMember
    · exact addressed.fresh req oldMember

theorem addressed_withRequest {sr : SrInstance} (addressed : Addressed sr) (ip : UInt32) :
    Addressed (sr.withRequest ip).1 ∧
      ∃ req ∈ (sr.withRequest ip).1.requests, req.id = (sr.withRequest ip).2 ∧
        req.ip = ip := by
  rcases withRequest_cases sr ip with ⟨req, member, same, found⟩ | ⟨absent, created⟩
  · rw [found]
    exact ⟨addressed, req, member, rfl, same⟩
  · rw [created]
    refine ⟨⟨?_, addressed.packets, ?_, ?_⟩, _, List.mem_cons_self .., rfl, rfl⟩
    · refine List.nodup_cons.mpr ⟨?_, addressed.requests⟩
      intro member
      obtain ⟨req, old, same⟩ := List.mem_map.mp member
      exact absurd same (Nat.ne_of_lt (addressed.fresh req old))
    · intro req member
      rcases List.mem_cons.mp member with rfl | old
      · exact Nat.lt_succ_self _
      · exact Nat.lt_succ_of_lt (addressed.fresh req old)
    · exact fun id member => Nat.lt_succ_of_lt (addressed.freshPackets id member)

theorem enqueue_split {sr : SrInstance} (addressed : Addressed sr) (ip : UInt32)
    (packet : Bytes) (iface : Name) :
    ∃ before req after, req.id = (sr.withRequest ip).2 ∧ req.ip = ip ∧
      (sr.withRequest ip).1.everyRequest = before ++ req :: after ∧
      (sr.enqueue ip packet iface).everyRequest =
        before ++ req.push ⟨(sr.withRequest ip).1.nextId, packet,
          strncpy srIfaceNamelen iface⟩ :: after := by
  obtain ⟨withAddressed, req, member, id, same⟩ := addressed_withRequest addressed ip
  obtain ⟨before, after, split⟩ :=
    List.append_of_mem (mem_everyRequest_of_mem member)
  refine ⟨before, req, after, id, same, split, ?_⟩
  have distinct := withAddressed.requests
  rw [split] at distinct
  have updated := distinct.update_split fun req =>
    req.push ⟨(sr.withRequest ip).1.nextId, packet, strncpy srIfaceNamelen iface⟩
  rw [← split] at updated
  rw [SrInstance.enqueue, everyRequest_record, everyRequest_updateRequest, ← id]
  exact updated

theorem packetIds_append (left right : List SrArpreq) :
    packetIds (left ++ right) = packetIds left ++ packetIds right :=
  List.flatMap_append

theorem packetIds_push (before after : List SrArpreq) (req : SrArpreq)
    (packet : SrPacket) :
    (packetIds (before ++ req.push packet :: after)).Perm
      (packet.id :: packetIds (before ++ req :: after)) := by
  have pushed : packetIds (req.push packet :: after) =
      packet.id :: packetIds (req :: after) := rfl
  rw [packetIds_append, packetIds_append, pushed]
  exact List.perm_middle

theorem addressed_enqueue {sr : SrInstance} (addressed : Addressed sr) (ip : UInt32)
    (packet : Bytes) (iface : Name) : Addressed (sr.enqueue ip packet iface) := by
  have withAddressed := (addressed_withRequest addressed ip).1
  obtain ⟨before, req, after, _, _, split, pushed⟩ :=
    enqueue_split addressed ip packet iface
  have nextId : (sr.enqueue ip packet iface).nextId =
      (sr.withRequest ip).1.nextId + 1 := rfl
  have ids := packetIds_push before after req
    ⟨(sr.withRequest ip).1.nextId, packet, strncpy srIfaceNamelen iface⟩
  rw [← pushed, ← split] at ids
  refine ⟨?_, ?_, ?_, ?_⟩
  · have distinct := withAddressed.requests
    rw [split] at distinct
    rw [pushed]
    simpa [Distinct, SrArpreq.push] using distinct
  · refine ids.nodup_iff.mpr (List.nodup_cons.mpr ⟨?_, withAddressed.packets⟩)
    exact fun member => absurd (withAddressed.freshPackets _ member) (Nat.lt_irrefl _)
  · have fresh := withAddressed.fresh
    rw [split] at fresh
    rw [pushed, nextId]
    intro other member
    refine Nat.lt_succ_of_lt ?_
    rcases List.mem_append.mp member with front | back
    · exact fresh other (List.mem_append_left _ front)
    · rcases List.mem_cons.mp back with rfl | rest
      · exact fresh req (List.mem_append_right _ (List.mem_cons_self ..))
      · exact fresh other (List.mem_append_right _ (List.mem_cons_of_mem _ rest))
  · rw [nextId]
    intro id member
    rcases List.mem_cons.mp (ids.subset member) with rfl | old
    · exact Nat.lt_succ_self _
    · exact Nat.lt_succ_of_lt (withAddressed.freshPackets id old)

theorem addressed_rebroadcast {sr : SrInstance} (addressed : Addressed sr)
    (req : SrArpreq) (interface : SrIf) : Addressed (sr.rebroadcast req interface) := by
  refine addressed_updateRequest ?_ req.id (fun _ => rfl) (fun _ => rfl)
  exact addressed.perm (List.Perm.refl _) (Nat.le_refl _)

theorem addressed_unlink {sr : SrInstance} (addressed : Addressed sr) {req : SrArpreq}
    (member : req ∈ sr.requests) : Addressed (sr.unlink req) :=
  addressed.perm (everyRequest_unlink (distinct_requests addressed.requests) member) (Nat.le_refl _)

theorem addressed_destroy {sr : SrInstance} (addressed : Addressed sr) (id : Nat) :
    Addressed (sr.destroy id) := by
  rcases destroy_cases sr id with ⟨req, member, _, unlinked⟩ | ⟨_, same⟩
  · rw [unlinked]
    exact addressed_unlink addressed member
  · rw [same]
    exact addressed

theorem learn_cases (sr : SrInstance) (mac : Mac) (ip : UInt32) :
    (∃ req ∈ sr.requests, req.ip = ip ∧
      sr.learn mac ip =
        ({ sr.unlink req with
            entries := insertMapping sr.entries mac ip sr.clock }).record
          (.resolved req.id mac)) ∨
      ((∀ req ∈ sr.requests, req.ip ≠ ip) ∧
        sr.learn mac ip =
          { sr with entries := insertMapping sr.entries mac ip sr.clock }) := by
  rcases find_key_cases SrArpreq.ip ip sr.requests with
    ⟨req, member, same, found⟩ | ⟨absent, found⟩
  · exact Or.inl ⟨req, member, same, by rw [SrInstance.learn, found]⟩
  · exact Or.inr ⟨absent, by rw [SrInstance.learn, found]⟩

theorem addressed_learn {sr : SrInstance} (addressed : Addressed sr) (mac : Mac)
    (ip : UInt32) : Addressed (sr.learn mac ip) := by
  rcases learn_cases sr mac ip with ⟨req, member, _, learned⟩ | ⟨_, learned⟩
  · rw [learned]
    exact addressed.perm (everyRequest_unlink (distinct_requests addressed.requests) member)
      (Nat.le_refl _)
  · rw [learned]
    exact addressed.perm (List.Perm.refl _) (Nat.le_refl _)

theorem Move.preserves_addressed {before after : SrInstance} (addressed : Addressed before)
    (move : Move before after) : Addressed after := by
  cases move with
  | touch buf offset size => exact addressed.perm (List.Perm.refl _) (Nat.le_refl _)
  | note event isNote => exact addressed.perm (List.Perm.refl _) (Nat.le_refl _)
  | send buf iface interface found source =>
      exact addressed.perm (List.Perm.refl _) (Nat.le_refl _)
  | queue gw packet iface interface found long miss =>
      exact addressed_enqueue addressed gw packet iface
  | broadcast req packet interface live due left first found =>
      exact addressed_rebroadcast addressed req interface
  | timeOut id =>
      refine addressed_destroy ?_ id
      exact addressed.perm (List.Perm.refl _) (Nat.le_refl _)
  | learn mac ip => exact addressed_learn addressed mac ip
  | expire => exact addressed.perm (List.Perm.refl _) (Nat.le_refl _)

theorem Moves.preserves_addressed {start sr : SrInstance} (moves : Moves start sr)
    (addressed : Addressed start) : Addressed sr :=
  moves.preserves Addressed addressed fun _ _ before move => move.preserves_addressed before

theorem addressed_srArpcacheInit (ifList : List SrIf) (routingTable : List SrRt)
    (clock : Int) : Addressed (srArpcacheInit ifList routingTable clock) where
  requests := List.nodup_nil
  packets := List.nodup_nil
  fresh := fun _ member => absurd member List.not_mem_nil
  freshPackets := fun _ member => absurd member List.not_mem_nil

end Cmput313.Router
