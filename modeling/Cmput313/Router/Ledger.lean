import Cmput313.Router.History
import Cmput313.Router.QueueReplay

/-!
# What becomes of the packets of the queue

The trace of a run read as a ledger: each packet that was queued waits as it came until a
reply resolves its request, and then it is sent.  A request that holds packets is never given
up in these runs: the process would have died of it.
-/

set_option autoImplicit false

namespace Cmput313.Router

open Cmput313.Bytes Cmput313.Keyed Cmput313.Program

/-! ## Reading the trace -/

def Event.queued? : Event → Option (Nat × SrPacket)
  | .queued _ request packet buf iface =>
      some (request, ⟨packet, buf, strncpy srIfaceNamelen iface⟩)
  | _ => none

def Event.resolved? : Event → Option Nat
  | .resolved request _ => some request
  | _ => none

/-- The request that got a packet or its address. -/
def Event.served? : Event → Option Nat
  | .queued _ request _ _ _ => some request
  | .resolved request _ => some request
  | _ => none

def everQueued (trace : List Event) : List (Nat × SrPacket) := trace.filterMap Event.queued?

def queuedOn (trace : List Event) (request : Nat) : List SrPacket :=
  (((everQueued trace).filter fun entry => entry.1 = request).map Prod.snd).reverse

/-- A request that was resolved gets nothing more. -/
def Lasting (early late : Event) : Prop :=
  ∀ request, early.resolved? = some request → late.served? ≠ some request

def SrInstance.detachedIds (sr : SrInstance) : List Nat := sr.detached.map fun left => left.1.id

theorem everQueued_append (trace later : List Event) :
    everQueued (trace ++ later) = everQueued trace ++ everQueued later :=
  List.filterMap_append

theorem queuedOn_append (trace later : List Event) (request : Nat) :
    queuedOn (trace ++ later) request = queuedOn later request ++ queuedOn trace request := by
  rw [queuedOn, everQueued_append, List.filter_append, List.map_append, List.reverse_append]
  rfl

/-- Nothing is queued, and no request leaves the queue. -/
structure Event.Inert (event : Event) : Prop where
  queued : event.queued? = none
  resolved : event.resolved? = none
  kept : ∀ request, event ≠ .timedOut request

theorem Event.Inert.served {event : Event} (inert : event.Inert) : event.served? = none := by
  cases event with
  | queued => cases inert.queued
  | resolved => cases inert.resolved
  | _ => rfl

theorem everQueued_of_inert {events : List Event} (inert : ∀ event ∈ events, event.Inert) :
    everQueued events = [] :=
  List.filterMap_eq_nil_iff.mpr fun event member => (inert event member).queued

theorem inert_of_note {event : Event} (isNote : event.IsNote) : event.Inert := by
  cases event with
  | icmp => exact ⟨rfl, rfl, fun _ => Event.noConfusion⟩
  | swept => exact ⟨rfl, rfl, fun _ => Event.noConfusion⟩
  | _ => cases isNote

theorem inert_of_sendEvents {ifList : List SrIf} {buf : Bytes} {iface : Name} :
    ∀ event ∈ sendEvents ifList buf iface, event.Inert := by
  intro event member
  rw [sendEvents, List.mem_cons] at member
  rcases member with rfl | member
  · exact ⟨rfl, rfl, fun _ => Event.noConfusion⟩
  · split at member
    · rw [List.mem_singleton.mp member]
      exact ⟨rfl, rfl, fun _ => Event.noConfusion⟩
    · cases member

/-! ## The ledger -/

structure Ledger (sr : SrInstance) : Prop where
  queue : QueueInvariant sr
  packets : ∀ req ∈ sr.everyRequest, req.packets = queuedOn sr.trace req.id
  known : ∀ entry ∈ everQueued sr.trace, entry.1 ∈ sr.everyRequest.map SrArpreq.id
  kept : ∀ request, Event.timedOut request ∉ sr.trace
  resolved : ∀ event ∈ sr.trace, ∀ request, event.resolved? = some request →
    request ∈ sr.detachedIds
  left : ∀ request ∈ sr.detachedIds, ∃ event ∈ sr.trace, event.resolved? = some request
  lasting : sr.trace.Pairwise Lasting
  distinct : ((everQueued sr.trace).map fun entry => entry.2.id).Nodup
  fresh : ∀ entry ∈ everQueued sr.trace, entry.2.id < sr.nextId

theorem map_id_everyRequest (sr : SrInstance) :
    sr.everyRequest.map SrArpreq.id = sr.requestIds ++ sr.detachedIds := by
  rw [SrInstance.everyRequest, List.map_append, List.map_map]
  rfl

theorem Addressed.not_detached {sr : SrInstance} (addressed : Addressed sr) {id : Nat}
    (queued : id ∈ sr.requestIds) : id ∉ sr.detachedIds := by
  have distinct : (sr.everyRequest.map SrArpreq.id).Nodup := addressed.requests
  rw [map_id_everyRequest] at distinct
  exact fun gone => (List.nodup_append.mp distinct).2.2 id queued id gone rfl

theorem detachedIds_updateRequest (sr : SrInstance) (id : Nat) {change : SrArpreq → SrArpreq}
    (keepsId : ∀ req, (change req).id = req.id) :
    (sr.updateRequest id change).detachedIds = sr.detachedIds := by
  rw [SrInstance.detachedIds, SrInstance.updateRequest, List.map_map]
  apply List.map_congr_left
  intro left _
  simp only [Function.comp_apply]
  split
  · exact keepsId left.1
  · rfl

theorem detachedIds_enqueue (sr : SrInstance) (gw : UInt32) (packet : Bytes) (iface : Name) :
    (sr.enqueue gw packet iface).detachedIds = sr.detachedIds := by
  have created : (sr.withRequest gw).1.detached = sr.detached := by
    unfold SrInstance.withRequest
    split <;> rfl
  have updated := @detachedIds_updateRequest
    { (sr.withRequest gw).1 with nextId := (sr.withRequest gw).1.nextId + 1 }
    (sr.withRequest gw).2
    (fun req => req.push
      ⟨(sr.withRequest gw).1.nextId, packet, strncpy srIfaceNamelen iface⟩) fun _ => rfl
  exact updated.trans
    (congrArg (List.map fun left : SrArpreq × Option Nat => left.1.id) created)

/-! ## Events that change no account -/

/-- The address of a request and the packets that wait in it. -/
def SrArpreq.account (req : SrArpreq) : Nat × List SrPacket := (req.id, req.packets)

theorem Ledger.idle {before after : SrInstance} (ledger : Ledger before)
    (queue : QueueInvariant after) {events : List Event}
    (trace : after.trace = before.trace ++ events) (inert : ∀ event ∈ events, event.Inert)
    (accounts : after.everyRequest.map SrArpreq.account =
      before.everyRequest.map SrArpreq.account)
    (detached : after.detachedIds = before.detachedIds) (later : before.nextId ≤ after.nextId) :
    Ledger after := by
  have queued : everQueued after.trace = everQueued before.trace := by
    rw [trace, everQueued_append, everQueued_of_inert inert, List.append_nil]
  have ids : after.everyRequest.map SrArpreq.id = before.everyRequest.map SrArpreq.id := by
    have firsts := congrArg (List.map Prod.fst) accounts
    rwa [List.map_map, List.map_map] at firsts
  refine ⟨queue, ?_, ?_, ?_, ?_, ?_, ?_, queued ▸ ledger.distinct, ?_⟩
  · intro req member
    have account : req.account ∈ before.everyRequest.map SrArpreq.account :=
      accounts ▸ List.mem_map_of_mem member
    obtain ⟨old, existed, same⟩ := List.mem_map.mp account
    have sameId : old.id = req.id := congrArg Prod.fst same
    have samePackets : old.packets = req.packets := congrArg Prod.snd same
    rw [← samePackets, ledger.packets old existed, sameId, queuedOn, queuedOn, queued]
  · rw [queued, ids]
    exact ledger.known
  · intro request member
    rw [trace, List.mem_append] at member
    exact member.elim (ledger.kept request) fun late => (inert _ late).kept request rfl
  · intro event member request resolves
    rw [trace, List.mem_append] at member
    rw [detached]
    rcases member with early | late
    · exact ledger.resolved event early request resolves
    · rw [(inert event late).resolved] at resolves
      cases resolves
  · intro request gone
    rw [detached] at gone
    obtain ⟨event, member, resolves⟩ := ledger.left request gone
    exact ⟨event, trace ▸ List.mem_append_left _ member, resolves⟩
  · rw [trace, List.pairwise_append]
    refine ⟨ledger.lasting, List.pairwise_of_forall_mem_list ?_, ?_⟩
    · intro early member late _ request resolves
      rw [(inert early member).resolved] at resolves
      cases resolves
    · intro early _ late member request _ serves
      rw [(inert late member).served] at serves
      cases serves
  · rw [queued]
    exact fun entry member => Nat.lt_of_lt_of_le (ledger.fresh entry member) later

/-! ## A packet is queued -/

theorem queuedOn_eq_nil {trace : List Event} {request : Nat}
    (absent : ∀ entry ∈ everQueued trace, entry.1 ≠ request) : queuedOn trace request = [] := by
  have none_ : (everQueued trace).filter (fun entry => entry.1 = request) = [] := by
    rw [List.filter_eq_nil_iff]
    intro entry member same
    exact absent entry member (of_decide_eq_true same)
  rw [queuedOn, none_]
  rfl

theorem Ledger.packets_withRequest {sr : SrInstance} (ledger : Ledger sr) (gw : UInt32) :
    ∀ req ∈ (sr.withRequest gw).1.everyRequest, req.packets = queuedOn sr.trace req.id := by
  rcases withRequest_cases sr gw with ⟨_, _, _, found⟩ | ⟨_, created⟩
  · rw [found]
    exact ledger.packets
  · rw [created]
    intro req member
    rcases List.mem_cons.mp member with rfl | old
    · refine (queuedOn_eq_nil fun entry queued same => ?_).symm
      obtain ⟨other, existed, own⟩ := List.mem_map.mp (ledger.known entry queued)
      exact Nat.ne_of_lt (ledger.queue.addressed.fresh other existed) (own.trans same)
    · exact ledger.packets req old

theorem map_id_withRequest (sr : SrInstance) (gw : UInt32) :
    sr.everyRequest.map SrArpreq.id ⊆ (sr.withRequest gw).1.everyRequest.map SrArpreq.id := by
  rcases withRequest_cases sr gw with ⟨_, _, _, found⟩ | ⟨_, created⟩
  · rw [found]
    exact List.Subset.refl _
  · rw [created]
    exact List.subset_cons_self _ _

theorem Ledger.enqueue {sr : SrInstance} (ledger : Ledger sr) {gw : UInt32} {packet : Bytes}
    {iface : Name} (queue : QueueInvariant (sr.enqueue gw packet iface)) :
    Ledger (sr.enqueue gw packet iface) := by
  have trace := trace_enqueue sr gw packet iface
  obtain ⟨front, req, back, id, -, split, pushed⟩ :=
    enqueue_split ledger.queue.addressed gw packet iface
  have older := ledger.packets_withRequest gw
  have olderIds := map_id_withRequest sr gw
  have createdId : sr.nextId ≤ (sr.withRequest gw).1.nextId := (grows_withRequest sr gw).nextId
  have nextId : (sr.enqueue gw packet iface).nextId = (sr.withRequest gw).1.nextId + 1 := rfl
  have others := (addressed_withRequest ledger.queue.addressed gw).1.requests
  have notGone : (sr.withRequest gw).2 ∉ sr.detachedIds :=
    detachedIds_enqueue sr gw packet iface ▸
      queue.addressed.not_detached (mem_requestIds_enqueue sr gw packet iface)
  rw [← id] at trace notGone
  generalize (sr.withRequest gw).1.nextId = number at trace pushed createdId nextId
  rw [split] at older olderIds others
  have apart := others.split
  have entry : everQueued [.queued gw req.id number packet iface] =
      [(req.id, ⟨number, packet, strncpy srIfaceNamelen iface⟩)] := rfl
  have queued : everQueued (sr.enqueue gw packet iface).trace =
      everQueued sr.trace ++ [(req.id, ⟨number, packet, strncpy srIfaceNamelen iface⟩)] := by
    rw [trace, everQueued_append, entry]
  have own : queuedOn [.queued gw req.id number packet iface] req.id =
      [⟨number, packet, strncpy srIfaceNamelen iface⟩] := by
    rw [queuedOn, entry]
    simp
  have ids : (sr.enqueue gw packet iface).everyRequest.map SrArpreq.id =
      (front ++ req :: back).map SrArpreq.id := by
    rw [pushed, List.map_append, List.map_append]
    rfl
  refine ⟨queue, ?_, ?_, ?_, ?_, ?_, ?_, ?_, ?_⟩
  · intro other member
    rw [trace, queuedOn_append]
    rw [pushed] at member
    rcases List.mem_cons.mp (List.perm_middle.subset member) with rfl | elsewhere
    · have before := older req (List.mem_append_right _ (List.mem_cons_self ..))
      show _ :: req.packets = queuedOn _ req.id ++ queuedOn sr.trace req.id
      rw [own, before]
      rfl
    · have nothing : queuedOn [.queued gw req.id number packet iface] other.id = [] := by
        apply queuedOn_eq_nil
        rw [entry]
        intro added inside same
        rw [List.mem_singleton.mp inside] at same
        exact apart other elsewhere same.symm
      rw [nothing, List.nil_append]
      exact older other (List.perm_middle.symm.subset (List.mem_cons_of_mem _ elsewhere))
  · rw [queued, ids]
    intro added member
    rcases List.mem_append.mp member with old | new
    · exact olderIds (ledger.known added old)
    · rw [List.mem_singleton.mp new]
      exact List.mem_map_of_mem (List.mem_append_right _ (List.mem_cons_self ..))
  · intro request member
    rw [trace, List.mem_append] at member
    exact member.elim (ledger.kept request) fun late => Event.noConfusion (List.mem_singleton.mp late)
  · intro event member request resolves
    rw [trace, List.mem_append] at member
    rw [detachedIds_enqueue]
    rcases member with early | late
    · exact ledger.resolved event early request resolves
    · rw [List.mem_singleton.mp late] at resolves
      cases resolves
  · intro request gone
    rw [detachedIds_enqueue] at gone
    obtain ⟨event, member, resolves⟩ := ledger.left request gone
    exact ⟨event, trace ▸ List.mem_append_left _ member, resolves⟩
  · rw [trace, List.pairwise_append]
    refine ⟨ledger.lasting, List.pairwise_singleton _ _, ?_⟩
    intro early member late new request resolves serves
    rw [List.mem_singleton.mp new] at serves
    cases serves
    exact notGone (ledger.resolved early member _ resolves)
  · rw [queued, List.map_append, List.nodup_append]
    refine ⟨ledger.distinct, List.nodup_singleton _, ?_⟩
    intro old member new added same
    obtain ⟨oldEntry, existed, rfl⟩ := List.mem_map.mp member
    rw [List.mem_singleton.mp added] at same
    exact absurd same (Nat.ne_of_lt (Nat.lt_of_lt_of_le (ledger.fresh oldEntry existed) createdId))
  · rw [queued, nextId]
    intro added member
    rcases List.mem_append.mp member with old | new
    · exact Nat.lt_succ_of_lt (Nat.lt_of_lt_of_le (ledger.fresh added old) createdId)
    · rw [List.mem_singleton.mp new]
      exact Nat.lt_succ_self _

/-! ## A request is resolved -/

theorem Ledger.resolve {before after : SrInstance} (ledger : Ledger before)
    (queue : QueueInvariant after) {request : Nat} {mac : Mac}
    (trace : after.trace = before.trace ++ [.resolved request mac])
    (every : after.everyRequest.Perm before.everyRequest)
    (detached : after.detachedIds = request :: before.detachedIds)
    (first : request ∉ before.detachedIds) (later : before.nextId ≤ after.nextId) :
    Ledger after := by
  have queued : everQueued after.trace = everQueued before.trace := by
    have nothing : everQueued [.resolved request mac] = [] := rfl
    rw [trace, everQueued_append, nothing, List.append_nil]
  refine ⟨queue, ?_, ?_, ?_, ?_, ?_, ?_, queued ▸ ledger.distinct, ?_⟩
  · intro req member
    rw [ledger.packets req (every.subset member), queuedOn, queuedOn, queued]
  · rw [queued]
    exact fun entry member => (every.map SrArpreq.id).symm.subset (ledger.known entry member)
  · intro id member
    rw [trace, List.mem_append] at member
    exact member.elim (ledger.kept id) fun late => Event.noConfusion (List.mem_singleton.mp late)
  · intro other member id resolves
    rw [trace, List.mem_append] at member
    rw [detached]
    rcases member with early | late
    · exact List.mem_cons_of_mem _ (ledger.resolved other early id resolves)
    · rw [List.mem_singleton.mp late] at resolves
      cases resolves
      exact List.mem_cons_self ..
  · intro id gone
    rw [detached, List.mem_cons] at gone
    rw [trace]
    rcases gone with rfl | old
    · exact ⟨_, List.mem_append_right _ (List.mem_singleton_self _), rfl⟩
    · obtain ⟨other, member, resolves⟩ := ledger.left id old
      exact ⟨other, List.mem_append_left _ member, resolves⟩
  · rw [trace, List.pairwise_append]
    refine ⟨ledger.lasting, List.pairwise_singleton _ _, ?_⟩
    intro early member late new id resolves serves
    rw [List.mem_singleton.mp new] at serves
    cases serves
    exact first (ledger.resolved early member _ resolves)
  · rw [queued]
    exact fun entry member => Nat.lt_of_lt_of_le (ledger.fresh entry member) later

theorem Ledger.move {before after : SrInstance} (ledger : Ledger before)
    (guarded : GuardedMove ordered before after) : Ledger after := by
  have queue := guarded.move.preserves_queueInvariant ledger.queue
  have later := guarded.move.grows.nextId
  cases guarded with
  | touch buf offset size =>
      exact ledger.idle queue (List.append_nil _).symm (List.forall_mem_nil _) rfl rfl later
  | note event isNote =>
      refine ledger.idle queue rfl (fun other member => ?_) rfl rfl later
      rw [List.mem_singleton.mp member]
      exact inert_of_note isNote
  | send buf iface interface found source typed =>
      exact ledger.idle queue rfl inert_of_sendEvents rfl rfl later
  | queue gw packet iface interface found long miss typed => exact ledger.enqueue queue
  | broadcast req packet interface live queued due left first found =>
      refine ledger.idle queue (trace_rebroadcast before req interface)
        (fun event member => ?_) ?_ (detachedIds_updateRequest _ _ fun _ => rfl) later
      · rcases List.mem_cons.mp member with rfl | sent
        · exact ⟨rfl, rfl, fun _ => Event.noConfusion⟩
        · exact inert_of_sendEvents event sent
      · rw [SrInstance.rebroadcast, everyRequest_updateRequest]
        exact map_update SrArpreq.account fun _ => rfl
  | timeOut id spent empty =>
      -- each request of the queue holds a packet
      obtain ⟨req, existed, -, nothing⟩ := empty trivial
      exact absurd nothing (ledger.queue.requests req existed).waiting
  | learn mac ip heard =>
      rcases learn_cases before mac ip with ⟨req, member, _, learned⟩ | ⟨_, learned⟩
      · refine @Ledger.resolve before (before.learn mac ip) ledger queue req.id mac ?_ ?_ ?_
          (ledger.queue.addressed.not_detached (List.mem_map_of_mem member)) later
        · rw [learned]
          rfl
        · rw [learned]
          exact everyRequest_unlink (distinct_requests ledger.queue.addressed.requests) member
        · rw [learned]
          rfl
      · refine @Ledger.idle before _ ledger queue [] ?_ (List.forall_mem_nil _) ?_ ?_ later
        · rw [learned]
          exact (List.append_nil _).symm
        · rw [learned]
          rfl
        · rw [learned]
          rfl
  | expire => exact ledger.idle queue (List.append_nil _).symm (List.forall_mem_nil _) rfl rfl later

theorem ledger_srArpcacheInit (ifList : List SrIf) (routingTable : List SrRt) (clock : Int) :
    Ledger (srArpcacheInit ifList routingTable clock) where
  queue := queueInvariant_srArpcacheInit ifList routingTable clock
  packets := List.forall_mem_nil _
  known := List.forall_mem_nil _
  kept := fun _ => List.not_mem_nil
  resolved := List.forall_mem_nil _
  left := List.forall_mem_nil _
  lasting := List.Pairwise.nil
  distinct := List.nodup_nil
  fresh := List.forall_mem_nil _

theorem Run.preserves_ordered {start sr : SrInstance} (run : Run start sr) (ready : Ready start)
    (invariant : SrInstance → Prop) (initially : invariant start)
    (clock : ∀ sr now, invariant sr → invariant (sr.atTime now))
    (preserved : ∀ before after, invariant before → GuardedMove ordered before after →
      invariant after) : invariant sr := by
  have both : Ready sr ∧ invariant sr := by
    induction run with
    | refl => exact ⟨ready, initially⟩
    | tail reached step inductionHypothesis =>
        obtain ⟨now, -, moves⟩ := step.guardedMoves inductionHypothesis.1
        exact ⟨Run.preserves_ready (reached.tail step) ready,
          moves.preserves invariant (clock _ now inductionHypothesis.2) preserved⟩
  exact both.2

theorem Ledger.atTime {sr : SrInstance} (ledger : Ledger sr) (now : Int) :
    Ledger (sr.atTime now) :=
  ledger.idle (queueInvariant_atTime ledger.queue now) (List.append_nil _).symm
    (List.forall_mem_nil _) rfl rfl (Nat.le_refl _)

theorem Run.ledger {ifList : List SrIf} {routingTable : List SrRt} {clock : Int}
    {sr : SrInstance} (run : Run (srArpcacheInit ifList routingTable clock) sr) : Ledger sr :=
  run.preserves_ordered (ready_srArpcacheInit ifList routingTable clock) Ledger
    (ledger_srArpcacheInit ifList routingTable clock)
    (fun _ now ledger => ledger.atTime now) fun _ _ ledger move => ledger.move move

/-! ## What a reply does

Only an ARP reply resolves a request, and the packets that waited in it go out at once.
-/

def Unresolved (events : List Event) : Prop :=
  ∀ request mac, Event.resolved request mac ∉ events

theorem unresolved_sendEvents (ifList : List SrIf) (buf : Bytes) (iface : Name) :
    Unresolved (sendEvents ifList buf iface) := by
  intro request mac member
  cases (inert_of_sendEvents _ member).resolved

theorem unresolved_deliveries (ifList : List SrIf) (mac : Mac) (packets : List SrPacket) :
    Unresolved (packets.flatMap (deliveryEvents ifList mac)) := by
  intro request other member
  obtain ⟨packet, -, inside⟩ := List.mem_flatMap.mp member
  rw [deliveryEvents] at inside
  split at inside
  · cases inside
  · exact unresolved_sendEvents _ _ _ request other inside

theorem Unresolved.cons {event : Event} {events : List Event}
    (other : ∀ request mac, event ≠ .resolved request mac) (unresolved : Unresolved events) :
    Unresolved (event :: events) := by
  intro request mac member
  rcases List.mem_cons.mp member with same | later
  · exact other request mac same.symm
  · exact unresolved request mac later

theorem unresolved_nil : Unresolved [] := fun _ _ => List.not_mem_nil

theorem GuardedMove.unresolved {guards : Guards} (silent : ∀ mac ip, ¬ guards.heard mac ip)
    {before after : SrInstance} (guarded : GuardedMove guards before after) :
    ∃ events, after.trace = before.trace ++ events ∧ Unresolved events := by
  cases guarded with
  | touch buf offset size => exact ⟨[], (List.append_nil _).symm, unresolved_nil⟩
  | note event isNote =>
      refine ⟨[event], rfl, unresolved_nil.cons ?_⟩
      rintro request mac rfl
      exact isNote
  | send buf iface interface found source typed =>
      exact ⟨_, rfl, unresolved_sendEvents _ _ _⟩
  | queue gw packet iface interface found long miss typed =>
      exact ⟨_, trace_enqueue before gw packet iface,
        unresolved_nil.cons fun _ _ => Event.noConfusion⟩
  | broadcast req packet interface live queued due left first found =>
      exact ⟨_, trace_rebroadcast before req interface,
        (unresolved_sendEvents _ _ _).cons fun _ _ => Event.noConfusion⟩
  | timeOut id spent empty =>
      exact ⟨[.timedOut id], trace_destroy _ id,
        unresolved_nil.cons fun _ _ => Event.noConfusion⟩
  | learn mac ip heard => exact absurd heard (silent mac ip)
  | expire => exact ⟨[], (List.append_nil _).symm, unresolved_nil⟩

theorem GuardedMoves.unresolved {guards : Guards} (silent : ∀ mac ip, ¬ guards.heard mac ip)
    {start sr : SrInstance} (guarded : GuardedMoves guards start sr) :
    ∃ events, sr.trace = start.trace ++ events ∧ Unresolved events := by
  induction guarded with
  | refl => exact ⟨[], (List.append_nil _).symm, unresolved_nil⟩
  | tail _ move inductionHypothesis =>
      obtain ⟨events, trace, unresolved⟩ := inductionHypothesis
      obtain ⟨more, longer, still⟩ := move.unresolved silent
      refine ⟨events ++ more, by rw [longer, trace, List.append_assoc], ?_⟩
      intro request mac member
      rcases List.mem_append.mp member with early | late
      · exact unresolved request mac early
      · exact still request mac late

section Reply

variable {memory : Memory} {sr : SrInstance} {buf : Bytes} {mac : Mac} {ip : UInt32}

/-- As for a whole reply; a shorter one is completed with what lies behind it. -/
theorem HearsReply.ends_srHandlepacket (hears : HearsReply memory sr.ifList buf mac ip)
    (depth : Nat) (arrival : Name) (returned : Unit → SrInstance → Prop)
    (stopped : Fault → SrInstance → Prop) :
    Ends (srHandlepacket memory depth ⟨.frame, buf⟩ arrival) sr returned stopped ↔
      if peek32 memory.beyond buf arTip = 0 then
        stopped (.assertion .ip) (sr.accessed [⟨.frame, etherType, 2⟩, ⟨.frame, arTip, 4⟩])
      else
        Ends (acceptArpReply memory ⟨.frame, buf⟩) (sr.accessed
          [⟨.frame, etherType, 2⟩, ⟨.frame, arTip, 4⟩, ⟨.frame, arOp, 2⟩])
          returned stopped := by
  have enough : ¬ buf.length < sizeofEthernetHdr := Nat.not_lt.mpr hears.header
  obtain ⟨interface, target, targetIp⟩ := hears.target
  have found : ∃ outInterface, (sr.ifList.find? fun walker =>
      walker.ip = peek32 memory.beyond buf arTip) = some outInterface :=
    Option.isSome_iff_exists.mp
      (List.find?_isSome.mpr ⟨interface, target, by simpa using targetIp⟩)
  obtain ⟨outInterface, found⟩ := found
  have notRequest : arpOpReply ≠ arpOpRequest := by decide
  simp only [srHandlepacket, ends_ite, if_neg enough, ends_bind, ends_load16, hears.type,
    if_true, handleArpFrame, answerArpFrame, ends_load32, ends_srGetInterfaceByIp,
    SrInstance.touched, found, hears.op, if_neg notRequest]
  simp only [SrInstance.accessed, List.append_assoc, List.cons_append, List.nil_append]

theorem HearsReply.resolves (hears : HearsReply memory sr.ifList buf mac ip)
    (invariant : QueueInvariant sr) {depth : Nat} {arrival : Name} {next : SrInstance}
    (completes : srHandlepacket memory depth ⟨.frame, buf⟩ arrival sr = .ok () next) :
    next.trace = sr.trace ∨ ∃ req ∈ sr.requests, ∃ mac,
      next.trace = sr.trace ++ .resolved req.id mac ::
        req.packets.flatMap (deliveryEvents sr.ifList mac) := by
  let touched := sr.accessed [⟨.frame, etherType, 2⟩, ⟨.frame, arTip, 4⟩, ⟨.frame, arOp, 2⟩]
  by_cases zero : peek32 memory.beyond buf arTip = 0
  · have ends := (hears.ends_srHandlepacket depth arrival (fun _ _ => False)
      fun _ _ => True).mpr (by rw [if_pos zero]; trivial)
    exact (ends.of_ok completes).elim
  · cases found : (sr.requests.find? fun req =>
        req.ip = peek32 memory.beyond buf arSip) with
    | none =>
        have accepts := @ends_acceptArpReply_unasked memory touched ⟨.frame, buf⟩ found
          fun _ _ => True
        have ends := (hears.ends_srHandlepacket depth arrival _ _).mpr
          (by rw [if_neg zero]; exact accepts)
        exact Or.inl (ends.of_ok completes).2
    | some req =>
        have member := List.mem_of_find?_eq_some found
        have wellFormed := invariant.requests req (mem_everyRequest_of_mem member)
        have accepts := @ends_acceptArpReply memory touched ⟨.frame, buf⟩ req found
          (fun packet waits => (wellFormed.packets packet waits).deliverable) fun _ _ => True
        have ends := (hears.ends_srHandlepacket depth arrival _ _).mpr
          (by rw [if_neg zero]; exact accepts)
        exact Or.inr ⟨req, member, _, (ends.of_ok completes).2⟩

end Reply

theorem Step.resolves {before after : SrInstance} (step : Step before after)
    (ready : Ready before) (invariant : QueueInvariant before) :
    ∃ events, after.trace = before.trace ++ events ∧ (Unresolved events ∨
      ∃ req ∈ before.requests, ∃ mac, events =
        .resolved req.id mac :: req.packets.flatMap (deliveryEvents before.ifList mac)) := by
  cases step with
  | perform memory depth operation now later completes =>
      by_cases heard : ∃ buf iface mac ip, operation = .handlePacket buf iface ∧
          HearsReply memory before.ifList buf mac ip
      · obtain ⟨buf, iface, mac, ip, rfl, hears⟩ := heard
        have hearsNow : HearsReply memory (before.atTime now).ifList buf mac ip := hears
        rcases hearsNow.resolves (queueInvariant_atTime invariant now) completes with
          same | ⟨req, member, sha, trace⟩
        · exact ⟨[], same.trans (List.append_nil _).symm, Or.inl unresolved_nil⟩
        · exact ⟨_, trace, Or.inr ⟨req, member, sha, rfl⟩⟩
      · have keeps : KeepsGuarded ordered.silent True (before.atTime now)
            (operation.perform memory depth) fun _ => True :=
          keeps_guarded_perform (fun _ => ready_atTime ready now) memory depth operation
            fun buf iface same mac ip hears => absurd ⟨buf, iface, mac, ip, same, hears⟩ heard
        have moves := (keeps.of_ok (.refl _ _) completes).1
        obtain ⟨events, trace, unresolved⟩ := moves.unresolved fun _ _ => id
        exact ⟨events, trace, Or.inl unresolved⟩

/-- Behind each reply stand the packets that were queued until then on its request. -/
def Delivered (ifList : List SrIf) (trace : List Event) : Prop :=
  ∀ front request mac back, trace = front ++ .resolved request mac :: back →
    (queuedOn front request).flatMap (deliveryEvents ifList mac) <+: back

theorem Delivered.append {ifList : List SrIf} {trace events : List Event}
    (delivered : Delivered ifList trace)
    (new : Unresolved events ∨ ∃ request mac, events =
      .resolved request mac :: (queuedOn trace request).flatMap (deliveryEvents ifList mac)) :
    Delivered ifList (trace ++ events) := by
  intro front request mac back split
  have within : ∀ middle, front = trace ++ middle → events = middle ++ .resolved request mac :: back →
      (queuedOn front request).flatMap (deliveryEvents ifList mac) <+: back := by
    intro middle longer same
    rcases new with unresolved | ⟨other, sha, whole⟩
    · exact absurd (same ▸ List.mem_append_right _ (List.mem_cons_self ..))
        (unresolved request mac)
    · rw [same] at whole
      cases middle with
      | nil =>
          obtain ⟨event, rest⟩ := List.cons.inj whole
          cases event
          have all : (queuedOn front request).flatMap (deliveryEvents ifList mac) = back := by
            rw [longer, List.append_nil, rest]
          exact ⟨[], (List.append_nil _).trans all⟩
      | cons first middle =>
          have rest : middle ++ .resolved request mac :: back =
              (queuedOn trace other).flatMap (deliveryEvents ifList sha) := (List.cons.inj whole).2
          have inside : Event.resolved request mac ∈
              (queuedOn trace other).flatMap (deliveryEvents ifList sha) :=
            rest ▸ List.mem_append_right _ (List.mem_cons_self ..)
          exact absurd inside (unresolved_deliveries ifList sha _ request mac)
  rcases List.append_eq_append_iff.mp split with ⟨middle, longer, same⟩ | ⟨middle, shorter, same⟩
  · exact within middle longer same
  · cases middle with
    | nil =>
        rw [List.append_nil] at shorter
        exact within [] (by rw [shorter, List.append_nil]) same.symm
    | cons first middle =>
        obtain ⟨rfl, rest⟩ := List.cons.inj same
        exact (delivered front request mac middle shorter).trans ⟨events, rest.symm⟩

section Runs

variable {ifList : List SrIf} {routingTable : List SrRt} {clock : Int} {sr : SrInstance}

end Runs

end Cmput313.Router
