import Cmput313.Router.Queue

/-!
# The order of the queue

New requests are pushed in front and the others keep their order.  A request that
leaves the queue keeps the `next` it had, so that the requests that follow one
another through `next`, on the queue or off it, come in the order of the queue.
-/

set_option autoImplicit false

namespace Cmput313.Router

open Cmput313.Keyed

def SrInstance.requestIds (sr : SrInstance) : List Nat := sr.requests.map SrArpreq.id

/-- New requests stand in front, behind them some of those of before, in order. -/
def Trails (before after : SrInstance) : Prop :=
  ∃ new kept, after.requestIds = new ++ kept ∧ kept.Sublist before.requestIds ∧
    ∀ id ∈ new, before.nextId ≤ id

theorem Trails.of_sublist {before after : SrInstance}
    (sublist : after.requestIds.Sublist before.requestIds) : Trails before after :=
  ⟨[], after.requestIds, rfl, sublist, fun _ member => absurd member List.not_mem_nil⟩

theorem Trails.of_eq {before after : SrInstance}
    (same : after.requestIds = before.requestIds) : Trails before after :=
  .of_sublist (same ▸ List.Sublist.refl _)

theorem Trails.trans {first second third : SrInstance} (left : Trails first second)
    (right : Trails second third) (later : first.nextId ≤ second.nextId) :
    Trails first third := by
  obtain ⟨leftNew, leftKept, secondIds, leftSublist, leftFresh⟩ := left
  obtain ⟨rightNew, rightKept, thirdIds, rightSublist, rightFresh⟩ := right
  rw [secondIds] at rightSublist
  obtain ⟨stillNew, stillKept, rfl, newSublist, keptSublist⟩ :=
    List.sublist_append_iff.mp rightSublist
  refine ⟨rightNew ++ stillNew, stillKept, ?_, keptSublist.trans leftSublist, ?_⟩
  · rw [thirdIds, List.append_assoc]
  · intro id member
    rcases List.mem_append.mp member with newer | older
    · exact Nat.le_trans later (rightFresh id newer)
    · exact leftFresh id (newSublist.subset older)

theorem requestIds_enqueue (sr : SrInstance) (gw : UInt32) (packet : Bytes) (iface : Name) :
    (sr.enqueue gw packet iface).requestIds = (sr.withRequest gw).1.requestIds :=
  map_update SrArpreq.id fun _ => rfl

theorem trails_enqueue (sr : SrInstance) (gw : UInt32) (packet : Bytes) (iface : Name) :
    Trails sr (sr.enqueue gw packet iface) := by
  have ids := requestIds_enqueue sr gw packet iface
  rcases withRequest_cases sr gw with ⟨_, _, _, found⟩ | ⟨_, created⟩
  · apply Trails.of_eq
    rw [ids, found]
  · refine ⟨[sr.nextId], sr.requestIds, ?_, List.Sublist.refl _, ?_⟩
    · rw [ids, created]
      rfl
    · intro id member
      rw [List.mem_singleton.mp member]

theorem mem_requestIds_enqueue (sr : SrInstance) (gw : UInt32) (packet : Bytes) (iface : Name) :
    (sr.withRequest gw).2 ∈ (sr.enqueue gw packet iface).requestIds := by
  rw [requestIds_enqueue]
  rcases withRequest_cases sr gw with ⟨req, member, _, found⟩ | ⟨_, created⟩
  · rw [found]
    exact List.mem_map_of_mem member
  · rw [created]
    exact List.mem_cons_self ..

theorem trails_unlink (sr : SrInstance) (req : SrArpreq) : Trails sr (sr.unlink req) :=
  .of_sublist (List.filter_sublist.map SrArpreq.id)

theorem Move.trails {before after : SrInstance} (move : Move before after) :
    Trails before after := by
  cases move with
  | touch buf offset size => exact .of_eq rfl
  | note event isNote => exact .of_eq rfl
  | send buf iface interface found source => exact .of_eq rfl
  | queue gw packet iface interface found long miss =>
      exact trails_enqueue before gw packet iface
  | broadcast req packet interface live due left first found =>
      apply Trails.of_eq
      exact map_update SrArpreq.id fun _ => rfl
  | timeOut id =>
      rcases destroy_cases (before.record (.timedOut id)) id with
        ⟨req, _, _, unlinked⟩ | ⟨_, same⟩
      · rw [unlinked]
        exact trails_unlink (before.record (.timedOut id)) req
      · rw [same]
        exact .of_eq rfl
  | learn mac ip =>
      rcases learn_cases before mac ip with ⟨req, _, _, learned⟩ | ⟨_, learned⟩
      · rw [learned]
        exact trails_unlink before req
      · rw [learned]
        exact .of_eq rfl
  | expire => exact .of_eq rfl

theorem Moves.trails {before after : SrInstance} (moves : Moves before after) :
    Trails before after := by
  induction moves with
  | refl => exact .of_eq rfl
  | tail reached move inductionHypothesis =>
      exact inductionHypothesis.trans move.trails (Moves.grows reached).nextId

/-- What follows a request of the queue and is still there, still ends the queue. -/
theorem Trails.split {before after : SrInstance} (trails : Trails before after)
    (addressed : Addressed before) {front back : List Nat}
    (ids : before.requestIds = front ++ back) :
    ∃ left, after.requestIds = left ++ back.filter fun id => id ∈ after.requestIds := by
  obtain ⟨new, kept, afterIds, sublist, fresh⟩ := trails
  have distinct : before.requestIds.Nodup := distinct_requests addressed.requests
  have older : ∀ id ∈ before.requestIds, id < before.nextId := by
    intro id member
    obtain ⟨req, queued, rfl⟩ := List.mem_map.mp member
    exact addressed.fresh req (mem_everyRequest_of_mem queued)
  have survivors : before.requestIds.filter (fun id => id ∈ after.requestIds) =
      before.requestIds.filter fun id => id ∈ kept := by
    apply List.filter_congr
    intro id member
    have notNew : id ∉ new := fun isNew =>
      absurd (older id member) (Nat.not_lt.mpr (fresh id isNew))
    simp [afterIds, notNew]
  have remains := survivors.trans (filter_eq_of_sublist sublist distinct)
  rw [ids, List.filter_append] at remains
  refine ⟨new ++ front.filter fun id => id ∈ after.requestIds, ?_⟩
  rw [List.append_assoc, remains]
  exact afterIds

theorem pair_sublist_of_append {first second : Nat} {front back : List Nat}
    (sublist : [first, second].Sublist (front ++ back)) (absent : first ∉ front) :
    [first, second].Sublist back := by
  obtain ⟨left, right, split, inFront, inBack⟩ := List.sublist_append_iff.mp sublist
  cases left with
  | nil => exact split ▸ inBack
  | cons head left =>
      have same : first = head := (List.cons.inj split).1
      exact absurd (inFront.subset (same ▸ List.mem_cons_self ..)) absent

theorem nextOnQueue_behind {id following : Nat} :
    ∀ requests : List SrArpreq, nextOnQueue requests id = some following →
      [id, following].Sublist (requests.map SrArpreq.id) := by
  intro requests
  induction requests with
  | nil => intro found; cases found
  | cons req rest inductionHypothesis =>
      intro found
      rw [nextOnQueue] at found
      split at found
      · rename_i same
        obtain ⟨other, first, own⟩ := Option.map_eq_some_iff.mp found
        obtain ⟨others, rfl⟩ := List.head?_eq_some_iff.mp first
        rw [List.map_cons, List.map_cons, same, own]
        exact ((List.nil_sublist _).cons_cons following).cons_cons id
      · exact (inductionHypothesis found).cons _

/-- The `next` pointers of the requests that left the queue. -/
def SrInstance.nextPointers (sr : SrInstance) : List (Nat × Option Nat) :=
  sr.detached.map fun left => (left.1.id, left.2)

theorem nextPointers_updateRequest (sr : SrInstance) (id : Nat) (change : SrArpreq → SrArpreq)
    (keepsId : ∀ req, (change req).id = req.id) :
    (sr.updateRequest id change).nextPointers = sr.nextPointers := by
  rw [SrInstance.nextPointers, SrInstance.updateRequest, List.map_map]
  apply List.map_congr_left
  intro left _
  rw [Function.comp_apply]
  split
  · rw [keepsId]
  · rfl

theorem Move.nextPointers {before after : SrInstance} (move : Move before after) :
    after.nextPointers = before.nextPointers ∨
      ∃ id, after.nextPointers =
        (id, nextOnQueue before.requests id) :: before.nextPointers := by
  cases move with
  | touch buf offset size => exact Or.inl rfl
  | note event isNote => exact Or.inl rfl
  | send buf iface interface found source => exact Or.inl rfl
  | queue gw packet iface interface found long miss =>
      left
      have created : (before.withRequest gw).1.nextPointers = before.nextPointers := by
        rcases withRequest_cases before gw with ⟨_, _, _, same⟩ | ⟨_, same⟩
        · rw [same]
        · rw [same]
          rfl
      let waiting : SrPacket :=
        ⟨(before.withRequest gw).1.nextId, packet, strncpy srIfaceNamelen iface⟩
      have pushed := nextPointers_updateRequest (before.withRequest gw).1
        (before.withRequest gw).2 (fun req => req.push waiting) fun _ => rfl
      exact pushed.trans created
  | broadcast req packet interface live due left first found =>
      exact Or.inl (nextPointers_updateRequest _ _ _ fun _ => rfl)
  | timeOut id =>
      rcases destroy_cases (before.record (.timedOut id)) id with
        ⟨req, _, _, unlinked⟩ | ⟨_, same⟩
      · rw [unlinked]
        exact Or.inr ⟨req.id, rfl⟩
      · rw [same]
        exact Or.inl rfl
  | learn mac ip =>
      rcases learn_cases before mac ip with ⟨req, _, _, learned⟩ | ⟨_, learned⟩
      · rw [learned]
        exact Or.inr ⟨req.id, rfl⟩
      · rw [learned]
        exact Or.inl rfl
  | expire => exact Or.inl rfl

section Order

variable {start sr : SrInstance}

theorem queued_behind (addressed : Addressed start) (moves : Moves start sr)
    {id following : Nat} (pending : id ∈ start.requestIds)
    (next : nextOnQueue sr.requests id = some following) :
    [id, following].Sublist start.requestIds := by
  obtain ⟨new, kept, ids, sublist, fresh⟩ := moves.trails
  obtain ⟨req, queued, rfl⟩ := List.mem_map.mp pending
  have older : req.id < start.nextId := addressed.fresh req (mem_everyRequest_of_mem queued)
  have notNew : req.id ∉ new := fun isNew => absurd older (Nat.not_lt.mpr (fresh _ isNew))
  have pair : [req.id, following].Sublist sr.requestIds := nextOnQueue_behind sr.requests next
  rw [ids] at pair
  exact (pair_sublist_of_append pair notNew).trans sublist

/-- Whatever the moves, the `next` of a request that was pending at the start is one
that was behind it. -/
theorem next_behind (addressed : Addressed start) (moves : Moves start sr)
    {id following : Nat} (pending : id ∈ start.requestIds)
    (next : sr.next id = some following) : [id, following].Sublist start.requestIds := by
  have pointers : ∀ pointer ∈ sr.nextPointers, ∀ following, pointer.1 ∈ start.requestIds →
      pointer.2 = some following → [pointer.1, following].Sublist start.requestIds := by
    clear next
    induction moves with
    | refl =>
        intro pointer member _ inQueue _
        obtain ⟨left, gone, rfl⟩ := List.mem_map.mp member
        obtain ⟨req, queued, same⟩ := List.mem_map.mp inQueue
        have distinct := addressed.requests
        rw [Distinct, SrInstance.everyRequest, List.map_append] at distinct
        have apart := (List.nodup_append.mp distinct).2.2 left.1.id inQueue left.1.id
        exact absurd rfl (apart (List.mem_map_of_mem (List.mem_map_of_mem gone)))
    | tail reached move inductionHypothesis =>
        intro pointer member following inQueue points
        rcases move.nextPointers with same | ⟨id, more⟩
        · exact inductionHypothesis pointer (same ▸ member) following inQueue points
        · rw [more] at member
          rcases List.mem_cons.mp member with rfl | older
          · exact queued_behind addressed reached inQueue points
          · exact inductionHypothesis pointer older following inQueue points
  unfold SrInstance.next at next
  split at next
  · exact queued_behind addressed moves pending next
  · obtain ⟨left, found, points⟩ := Option.bind_eq_some_iff.mp next
    have own : left.1.id = id := by simpa using List.find?_some found
    have pointer := pointers (left.1.id, left.2)
      (List.mem_map.mpr ⟨left, List.mem_of_find?_eq_some found, rfl⟩) following
      (own ▸ pending) points
    exact own ▸ pointer

theorem following_mem {front back : List Nat} {current following : Nat}
    (distinct : (front ++ current :: back).Nodup)
    (behind : [current, following].Sublist (front ++ current :: back)) : following ∈ back := by
  have absent : current ∉ front := fun member =>
    (List.nodup_append.mp distinct).2.2 current member current (List.mem_cons_self ..) rfl
  have later := pair_sublist_of_append behind absent
  exact List.singleton_sublist.mp (List.cons_sublist_cons.mp later)

end Order

end Cmput313.Router
