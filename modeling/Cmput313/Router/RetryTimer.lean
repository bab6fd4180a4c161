import Cmput313.Router.QueueInvariant

/-!
# When a request is sent again

A request is due when more than one whole second lies between the clock and the
time it was last sent.  A sweep in the next second therefore passes it over.
-/

set_option autoImplicit false

namespace Cmput313.Router

open Cmput313.Keyed Cmput313.Program

/-! ## The broadcasts of one move -/

structure SentSince (sr : SrInstance) (id : Nat) (time : Int) : Prop where
  old : id < sr.nextId
  sent : ∀ req ∈ sr.everyRequest, req.id = id → time ≤ req.sent

theorem SentSince.of_requests {before after : SrInstance} {id : Nat} {time : Int}
    (since : SentSince before id time)
    (same : after.everyRequest.Perm before.everyRequest)
    (later : before.nextId ≤ after.nextId) : SentSince after id time where
  old := Nat.lt_of_lt_of_le since.old later
  sent := fun req member => since.sent req (same.subset member)

theorem broadcast_not_mem_sendEvents (ifList : List SrIf) (buf : Bytes) (iface : Name)
    (id : Nat) (now : Int) : .broadcast id now ∉ sendEvents ifList buf iface := by
  unfold sendEvents
  split <;> simp

theorem Move.of_broadcast {before after : SrInstance} (move : Move before after)
    {id : Nat} {now : Int}
    (event : .broadcast id now ∈ after.trace.drop before.trace.length) :
    now = before.clock ∧ ∃ (req : SrArpreq) (interface : SrIf), req.id = id ∧
      before.request? id = some req ∧ before.clock - req.sent > 1 ∧
      after = before.rebroadcast req interface := by
  cases move with
  | touch buf offset size => simp [SrInstance.touched] at event
  | note other isNote =>
      rw [SrInstance.record, List.drop_left, List.mem_singleton] at event
      subst event
      exact isNote.elim
  | send buf iface interface found source =>
      rw [SrInstance.sendPacket, List.drop_left] at event
      exact absurd event (broadcast_not_mem_sendEvents _ _ _ _ _)
  | queue gw packet iface interface found long miss =>
      rw [trace_enqueue, List.drop_left] at event
      simp at event
  | broadcast req packet interface live due left first found =>
      rw [trace_rebroadcast, List.drop_left] at event
      rcases List.mem_cons.mp event with same | sent
      · obtain ⟨rfl, rfl⟩ := Event.broadcast.inj same
        exact ⟨rfl, req, interface, rfl, live, due, rfl⟩
      · exact absurd sent (broadcast_not_mem_sendEvents _ _ _ _ _)
  | timeOut other =>
      rw [trace_destroy, SrInstance.record, List.drop_left] at event
      simp at event
  | learn mac ip =>
      rw [trace_learn, List.drop_left] at event
      unfold learnEvents at event
      split at event <;> simp at event
  | expire => simp at event

theorem sentSince_updateRequest {sr : SrInstance} {id : Nat} {time : Int}
    (since : SentSince sr id time) (other : Nat) (change : SrArpreq → SrArpreq)
    (keepsId : ∀ req, (change req).id = req.id)
    (later : ∀ req ∈ sr.everyRequest, req.id = other → req.id = id → time ≤ (change req).sent) :
    SentSince (sr.updateRequest other change) id time where
  old := since.old
  sent := by
    intro req member same
    rw [everyRequest_updateRequest] at member
    obtain ⟨old, oldMember, ⟨changed, rfl⟩ | ⟨_, rfl⟩⟩ := mem_update member
    · exact later old oldMember changed ((keepsId old).symm.trans same)
    · exact since.sent req oldMember same

theorem sentSince_withRequest {sr : SrInstance} {id : Nat} {time : Int}
    (since : SentSince sr id time) (ip : UInt32) :
    SentSince (sr.withRequest ip).1 id time := by
  rcases withRequest_cases sr ip with ⟨_, _, _, found⟩ | ⟨_, created⟩
  · rw [found]
    exact since
  · rw [created]
    refine ⟨Nat.lt_succ_of_lt since.old, ?_⟩
    intro req member same
    rcases List.mem_cons.mp member with rfl | oldMember
    · exact absurd same.symm (Nat.ne_of_lt since.old)
    · exact since.sent req oldMember same

theorem sentSince_rebroadcast {sr : SrInstance} (addressed : Addressed sr) {req : SrArpreq}
    (live : sr.request? req.id = some req) (interface : SrIf) :
    SentSince (sr.rebroadcast req interface) req.id sr.clock where
  old := addressed.fresh req (addressed.request?_eq_some_iff.mp live).1
  sent := by
    intro other member same
    rw [SrInstance.rebroadcast, everyRequest_updateRequest] at member
    obtain ⟨old, _, ⟨_, rfl⟩ | ⟨apart, rfl⟩⟩ := mem_update member
    · exact Int.le_refl _
    · exact absurd same apart

theorem Move.preserves_sentSince {before after : SrInstance} (move : Move before after)
    (addressed : Addressed before) {id : Nat} {time : Int}
    (since : SentSince before id time) : SentSince after id time := by
  cases move with
  | touch buf offset size => exact since.of_requests (List.Perm.refl _) (Nat.le_refl _)
  | note event isNote => exact since.of_requests (List.Perm.refl _) (Nat.le_refl _)
  | send buf iface interface found source =>
      exact since.of_requests (List.Perm.refl _) (Nat.le_refl _)
  | queue gw packet iface interface found long miss =>
      have created := sentSince_withRequest since gw
      have pushed := sentSince_updateRequest created (before.withRequest gw).2
        (fun req => req.push ⟨(before.withRequest gw).1.nextId, packet,
          strncpy srIfaceNamelen iface⟩) (fun _ => rfl)
        fun req member _ same => created.sent req member same
      exact pushed.of_requests (List.Perm.refl _) (Nat.le_succ _)
  | broadcast req packet interface live due left first found =>
      have recorded : SentSince ((before.record (.broadcast req.id before.clock)).sendPacket
          (arpRequestFrame interface req.ip) interface.name) id time :=
        since.of_requests (List.Perm.refl _) (Nat.le_refl _)
      refine sentSince_updateRequest recorded req.id _ (fun _ => rfl) ?_
      intro other _ own same
      have member := (addressed.request?_eq_some_iff.mp live).1
      have sent := since.sent req member (own.symm.trans same)
      show time ≤ before.clock
      omega
  | timeOut other =>
      have recorded : SentSince (before.record (.timedOut other)) id time :=
        since.of_requests (List.Perm.refl _) (Nat.le_refl _)
      rcases destroy_cases (before.record (.timedOut other)) other with
        ⟨req, member, _, unlinked⟩ | ⟨_, same⟩
      · rw [unlinked]
        exact recorded.of_requests
          (everyRequest_unlink (distinct_requests addressed.requests) member)
          (Nat.le_refl _)
      · rw [same]
        exact recorded
  | learn mac ip =>
      rcases learn_cases before mac ip with ⟨req, member, _, learned⟩ | ⟨_, learned⟩
      · rw [learned]
        exact since.of_requests
          (everyRequest_unlink (distinct_requests addressed.requests) member)
          (Nat.le_refl _)
      · rw [learned]
        exact since.of_requests (List.Perm.refl _) (Nat.le_refl _)
  | expire => exact since.of_requests (List.Perm.refl _) (Nat.le_refl _)

/-! ## The broadcasts of a run -/

/-- No request was broadcast in two seconds in a row, and each was last sent when its last
broadcast says, or later. -/
structure Alternates (sr : SrInstance) : Prop where
  since : ∀ id now, .broadcast id now ∈ sr.trace → SentSince sr id now
  spaced : ∀ id now, .broadcast id now ∈ sr.trace → .broadcast id (now + 1) ∉ sr.trace

theorem Move.preserves_alternates {before after : SrInstance} (move : Move before after)
    (addressed : Addressed before) (alternates : Alternates before) : Alternates after := by
  obtain ⟨new, split⟩ := move.grows.trace
  have cases : ∀ {id : Nat} {now : Int}, .broadcast id now ∈ after.trace →
      .broadcast id now ∈ before.trace ∨
        .broadcast id now ∈ after.trace.drop before.trace.length := by
    intro id now event
    rw [← split] at event ⊢
    rw [List.drop_left]
    exact List.mem_append.mp event
  constructor
  · intro id now event
    rcases cases event with old | new
    · exact move.preserves_sentSince addressed (alternates.since id now old)
    · obtain ⟨rfl, req, interface, rfl, live, _, rfl⟩ := move.of_broadcast new
      exact sentSince_rebroadcast addressed live interface
  · intro id now event next
    rcases cases event with old | new <;> rcases cases next with oldNext | newNext
    · exact alternates.spaced id now old oldNext
    · obtain ⟨clock, req, interface, rfl, live, due, _⟩ := move.of_broadcast newNext
      have member := (addressed.request?_eq_some_iff.mp live).1
      have sent := (alternates.since req.id now old).sent req member rfl
      omega
    · obtain ⟨clock, req, interface, rfl, live, due, _⟩ := move.of_broadcast new
      have member := (addressed.request?_eq_some_iff.mp live).1
      have sent := (alternates.since req.id (now + 1) oldNext).sent req member rfl
      omega
    · have clock := (move.of_broadcast new).1
      have nextClock := (move.of_broadcast newNext).1
      omega

theorem Moves.preserves_alternates {start sr : SrInstance} (moves : Moves start sr)
    (addressed : Addressed start) (alternates : Alternates start) : Alternates sr := by
  have both := moves.preserves (fun sr => Addressed sr ∧ Alternates sr) ⟨addressed, alternates⟩
    fun _ _ kept move =>
      ⟨move.preserves_addressed kept.1, move.preserves_alternates kept.1 kept.2⟩
  exact both.2

theorem alternates_atTime {sr : SrInstance} (alternates : Alternates sr) (now : Int) :
    Alternates (sr.atTime now) where
  since := fun id time event =>
    (alternates.since id time event).of_requests (List.Perm.refl _) (Nat.le_refl _)
  spaced := alternates.spaced

/-! ## A sweep every second -/

section Sweeps

variable (memory : Memory) (depth : Nat) (sr : SrInstance) (start : Int)

/-- The state after that many sweeps, the first at `start`, one a second. -/
def afterSweeps : Nat → SrInstance
  | 0 => sr
  | count + 1 =>
      finalState (srArpcacheSweepreqs memory depth)
        ((afterSweeps count).atTime (start + count))

def sweepEvents (second : Nat) : List Event :=
  (afterSweeps memory depth sr start (second + 1)).trace.drop
    (afterSweeps memory depth sr start second).trace.length

/-- The request was broadcast once in each of five seconds in a row. -/
def BroadcastEachSecond (sr : SrInstance) (id : Nat) (first : Int) : Prop :=
  ∀ second : Nat, second < 5 → sr.trace.count (.broadcast id (first + second)) = 1

/-- The request is broadcast once in each of five seconds in a row, the one in which it was
queued among them; the sweep in the next one reports every waiting packet as unreachable,
and then the request is gone. -/
def SentEverySecond (req : SrArpreq) : Prop :=
  ∃ (first : Int) (sweeps : Nat), start + sweeps = first + 5 ∧
    BroadcastEachSecond (afterSweeps memory depth sr start sweeps) req.id first ∧
    (∀ packet ∈ req.packets, .icmp (.packet packet.id) icmpTypeDestUnreachable
      icmpDestUnreachableHost ∈ sweepEvents memory depth sr start sweeps) ∧
    ∀ other ∈ (afterSweeps memory depth sr start (sweeps + 1)).requests,
      other.id ≠ req.id

theorem addressed_afterSweeps (addressed : Addressed sr) (count : Nat) :
    Addressed (afterSweeps memory depth sr start count) := by
  induction count with
  | zero => exact addressed
  | succ count inductionHypothesis =>
      have keeps : KeepsMoves True
          ((afterSweeps memory depth sr start count).atTime (start + count))
          (srArpcacheSweepreqs memory depth) fun _ => True :=
        keeps_moves_srArpcacheSweepreqs memory depth
      have timed : Addressed
          ((afterSweeps memory depth sr start count).atTime (start + count)) :=
        addressed_atTime inductionHypothesis _
      exact (keeps.finalState (Moves.refl _)).preserves_addressed timed

variable {memory depth sr start} in
theorem run_afterSweeps {first : SrInstance} (run : Run first sr) :
    ∀ count : Nat,
      (∀ done < count, (afterSweeps memory depth sr start done).clock ≤ start + done ∧
        returns (srArpcacheSweepreqs memory depth)
          ((afterSweeps memory depth sr start done).atTime (start + done)) = true) →
      Run first (afterSweeps memory depth sr start count) := by
  intro count
  induction count with
  | zero => exact fun _ => run
  | succ count inductionHypothesis =>
      intro completes
      obtain ⟨later, ends⟩ := completes count (Nat.lt_succ_self count)
      have reached := inductionHypothesis fun done before =>
        completes done (Nat.lt_succ_of_lt before)
      exact reached.tail
        (.perform memory depth .sweepRequests (start + count) later (eq_ok_of_returns ends))

theorem alternates_afterSweeps (addressed : Addressed sr) (alternates : Alternates sr)
    (count : Nat) : Alternates (afterSweeps memory depth sr start count) := by
  induction count with
  | zero => exact alternates
  | succ count inductionHypothesis =>
      have keeps : KeepsMoves True
          ((afterSweeps memory depth sr start count).atTime (start + count))
          (srArpcacheSweepreqs memory depth) fun _ => True :=
        keeps_moves_srArpcacheSweepreqs memory depth
      have before := addressed_afterSweeps memory depth sr start addressed count
      exact (keeps.finalState (Moves.refl _)).preserves_alternates
        (addressed_atTime before _) (alternates_atTime inductionHypothesis _)

end Sweeps

theorem Run.preserves_alternates {start sr : SrInstance} (run : Run start sr)
    (addressed : Addressed start) (alternates : Alternates start) : Alternates sr := by
  have both := run.preserves (fun sr => Addressed sr ∧ Alternates sr) ⟨addressed, alternates⟩
    (fun _ now _ kept => ⟨addressed_atTime kept.1 now, alternates_atTime kept.2 now⟩)
    fun _ _ kept move =>
      ⟨move.preserves_addressed kept.1, move.preserves_alternates kept.1 kept.2⟩
  exact both.2

theorem alternates_srArpcacheInit (ifList : List SrIf) (routingTable : List SrRt)
    (clock : Int) : Alternates (srArpcacheInit ifList routingTable clock) where
  since := fun _ _ event => absurd event List.not_mem_nil
  spaced := fun _ _ event => absurd event List.not_mem_nil

theorem Alternates.not_broadcastEachSecond {sr : SrInstance} (alternates : Alternates sr)
    (id : Nat) (first : Int) : ¬ BroadcastEachSecond sr id first := by
  intro sent
  have once := List.count_pos_iff.mp (sent 0 (by decide) ▸ Nat.zero_lt_one)
  have again := List.count_pos_iff.mp (sent 1 (by decide) ▸ Nat.zero_lt_one)
  rw [Int.natCast_zero, Int.add_zero] at once
  exact alternates.spaced id first once again

/-- Whatever the router has done, the start and the request, sweeps once a second never
send it in two seconds in a row. -/
theorem not_sentEverySecond {ifList : List SrIf} {routingTable : List SrRt} {clock : Int}
    {sr : SrInstance} (run : Run (srArpcacheInit ifList routingTable clock) sr)
    (memory : Memory) (depth : Nat) (start : Int) (req : SrArpreq) :
    (∀ (sweeps : Nat) (second : Int),
      .broadcast req.id second ∈ (afterSweeps memory depth sr start sweeps).trace →
        .broadcast req.id (second + 1) ∉ (afterSweeps memory depth sr start sweeps).trace) ∧
      ¬ SentEverySecond memory depth sr start req := by
  have addressed := run.preserves_addressed (addressed_srArpcacheInit ifList routingTable clock)
  have alternates := alternates_afterSweeps memory depth sr start addressed
    (run.preserves_alternates (addressed_srArpcacheInit ifList routingTable clock)
      (alternates_srArpcacheInit ifList routingTable clock))
  refine ⟨fun sweeps => (alternates sweeps).spaced req.id, ?_⟩
  rintro ⟨first, sweeps, _, sent, _⟩
  exact (alternates sweeps).not_broadcastEachSecond req.id first sent

/-- The request of the small network for its gateway, sent when it was queued. -/
def waitingRequest : SrArpreq where
  id := 0
  ip := lanRoute.gw
  sent := 100
  timesSent := 1
  packets := [⟨1, forwardedDatagram, strncpy srIfaceNamelen eth0.name⟩]

theorem addressed_waitingNetwork : Addressed waitingNetwork :=
  run_waitingNetwork.preserves_addressed (addressed_srArpcacheInit [eth0] [lanRoute] 100)

theorem waitingRequest_not_sentEverySecond :
    waitingNetwork.requests = [waitingRequest] ∧
      (∀ (sweeps : Nat) (second : Int),
        .broadcast waitingRequest.id second ∈
            (afterSweeps noMemory 1 waitingNetwork 101 sweeps).trace →
          .broadcast waitingRequest.id (second + 1) ∉
            (afterSweeps noMemory 1 waitingNetwork 101 sweeps).trace) ∧
      ¬ SentEverySecond noMemory 1 waitingNetwork 101 waitingRequest :=
  ⟨by decide +kernel, not_sentEverySecond run_waitingNetwork noMemory 1 101 waitingRequest⟩

/-- From the second in which it is queued on, it is sent in every other one. -/
theorem waitingRequest_sent_every_other_second :
    ((List.range 9).map fun second =>
        (afterSweeps noMemory 1 waitingNetwork 101 8).trace.count
          (.broadcast waitingRequest.id (100 + second))) = [1, 0, 1, 0, 1, 0, 1, 0, 1] ∧
      ¬ SentEverySecond noMemory 1 waitingNetwork 101 waitingRequest := by
  refine ⟨by decide +kernel, ?_⟩
  rintro ⟨first, sweeps, _, sent, _⟩
  have alternates := alternates_afterSweeps noMemory 1 waitingNetwork 101
    addressed_waitingNetwork (run_waitingNetwork.preserves_alternates
      (addressed_srArpcacheInit [eth0] [lanRoute] 100)
      (alternates_srArpcacheInit [eth0] [lanRoute] 100)) sweeps
  exact alternates.not_broadcastEachSecond waitingRequest.id first sent

end Cmput313.Router
