import Cmput313.Router.RequestLife

/-!
# The frames given to `sr_send_packet`

Forwarded frames, answers, errors, frames that waited and ARP requests are built in
different places, and their interface is looked up again by its name.  Whatever
the interface list, each has a whole Ethernet header with the address of the
interface that the name finds.
-/

set_option autoImplicit false

namespace Cmput313.Router

open Cmput313.Program

/-- What `sr_send_packet` tests, of the frame that an event hands to it. -/
def Accepted (ifList : List SrIf) : Event → Prop
  | .sendPacket buf iface =>
      sizeofEthernetHdr ≤ buf.length ∧ srEtherAddrsMatchInterface ifList buf iface = true
  | _ => True

theorem accepted_sendPacket {ifList : List SrIf} {buf : Bytes} {iface : Name}
    {interface : SrIf} (long : 14 ≤ buf.length)
    (found : srGetInterface ifList iface = some interface)
    (source : (buf.drop etherShost).take 6 = interface.addr.toList) :
    Accepted ifList (.sendPacket buf iface) := by
  refine ⟨long, ?_⟩
  rw [srEtherAddrsMatchInterface, found]
  exact decide_eq_true source

theorem accepted_sendEvents {ifList : List SrIf} {buf : Bytes} {iface : Name}
    (accepted : Accepted ifList (.sendPacket buf iface)) :
    ∀ event ∈ sendEvents ifList buf iface, Accepted ifList event := by
  intro event member
  unfold sendEvents at member
  rcases List.mem_cons.mp member with rfl | wired
  · exact accepted
  · split at wired
    · rw [List.mem_singleton.mp wired]
      trivial
    · exact absurd wired List.not_mem_nil

theorem Accepted.single {ifList : List SrIf} {event : Event} (accepted : Accepted ifList event) :
    ∀ other ∈ [event], Accepted ifList other :=
  fun _ member => List.mem_singleton.mp member ▸ accepted

theorem GuardedMove.accepted {before after : SrInstance}
    (guarded : GuardedMove ordered before after) :
    ∀ event ∈ after.trace.drop before.trace.length, Accepted before.ifList event := by
  have logged : ∀ {next : SrInstance} {events : List Event},
      next.trace = before.trace ++ events →
      (∀ event ∈ events, Accepted before.ifList event) →
      ∀ event ∈ next.trace.drop before.trace.length, Accepted before.ifList event := by
    intro next events trace accepted
    rw [trace, List.drop_left]
    exact accepted
  have none : ∀ event ∈ ([] : List Event), Accepted before.ifList event :=
    fun _ member => absurd member List.not_mem_nil
  cases guarded with
  | touch buf offset size => exact logged (List.append_nil _).symm none
  | expire => exact logged (List.append_nil _).symm none
  | note event isNote =>
      apply logged rfl
      apply Accepted.single
      cases event with
      | sendPacket buf iface => exact isNote.elim
      | _ => trivial
  | send buf iface interface found source typed =>
      apply logged rfl
      apply accepted_sendEvents
      rcases typed trivial with datagram | reply
      · exact accepted_sendPacket datagram.length found source
      · exact accepted_sendPacket reply.length found source
  | queue gw packet iface interface found long miss typed =>
      apply logged (trace_enqueue before gw packet iface)
      apply Accepted.single
      trivial
  | broadcast req packet interface live queued due left first found =>
      have frame := asksFrom_arpRequestFrame interface req.ip
      apply logged (trace_rebroadcast before req interface)
      intro event member
      rcases List.mem_cons.mp member with rfl | sent
      · trivial
      · apply accepted_sendEvents _ event sent
        apply accepted_sendPacket _ (srGetInterface_own_name found) frame.source
        exact frame.long
  | timeOut id spent empty =>
      apply logged (trace_destroy (before.record (.timedOut id)) id)
      apply Accepted.single
      trivial
  | learn mac ip heard =>
      apply logged (trace_learn before mac ip)
      unfold learnEvents
      split
      · apply Accepted.single
        trivial
      · exact none

theorem GuardedMoves.accepted {start sr : SrInstance} (guarded : GuardedMoves ordered start sr) :
    ∀ event ∈ sr.trace.drop start.trace.length, Accepted start.ifList event := by
  have kept := guarded.preserves_history
    (fun past sr => sr.ifList = start.ifList ∧
      ∀ stamped ∈ past, Accepted start.ifList stamped.2)
    ⟨rfl, fun _ member => absurd member List.not_mem_nil⟩
    (by
      rintro past before after ⟨ifList, accepted⟩ move
      refine ⟨move.move.grows.ifList.trans ifList, ?_⟩
      intro event member
      rcases List.mem_append.mp member with old | new
      · exact accepted event old
      · obtain ⟨own, logged, rfl⟩ := List.mem_map.mp new
        exact ifList ▸ move.accepted own logged)
  intro event member
  exact kept.2 _ (List.mem_append_right _ (List.mem_map_of_mem member))

theorem srSendPacket_accepted {sr : SrInstance} {buf : Bytes} {iface : Name}
    (accepted : Accepted sr.ifList (.sendPacket buf iface)) :
    ∃ next, srSendPacket buf iface sr = .ok 0 next := by
  have short : ¬ buf.length < sizeofEthernetHdr := Nat.not_lt.mpr accepted.1
  have ends : Ends (srSendPacket buf iface) sr (fun value _ => value = 0) fun _ _ => False := by
    have matching : srEtherAddrsMatchInterface (sr.record (.sendPacket buf iface)).ifList buf
        iface = true := accepted.2
    simp only [srSendPacket, ends_bind, ends_log, ends_get, ends_ite, ends_pure, short,
      if_false, matching, if_true]
  unfold Ends at ends
  cases result : srSendPacket buf iface sr with
  | ok value next =>
      rw [result] at ends
      exact ⟨next, congrArg (fun returned => EStateM.Result.ok returned next) ends⟩
  | error fault next =>
      rw [result] at ends
      exact ends.elim

/-- In every state of a run, whatever the operation and however it ends, no frame that it
hands to `sr_send_packet` is rejected there. -/
theorem frames_accepted {ifList : List SrIf} {routingTable : List SrRt} {clock : Int}
    {sr : SrInstance} (run : Run (srArpcacheInit ifList routingTable clock) sr)
    (memory : Memory) (depth : Nat) (operation : Operation) (now : Int) {buf : Bytes}
    {iface : Name}
    (sent : .sendPacket buf iface ∈
      (finalState (operation.perform memory depth) (sr.atTime now)).trace.drop
        sr.trace.length) :
    sizeofEthernetHdr ≤ buf.length ∧
      (∃ interface, srGetInterface ifList iface = some interface ∧
        (buf.drop etherShost).take 6 = interface.addr.toList) ∧
      ∃ next, srSendPacket buf iface sr = .ok 0 next := by
  have ready := run.preserves_ready (ready_srArpcacheInit ifList routingTable clock)
  have keeps : KeepsGuarded ordered True (sr.atTime now)
      (operation.perform memory depth) fun _ => True :=
    keeps_guarded_perform (fun _ => ready_atTime ready now) memory depth operation
      fun _ _ _ _ _ _ => trivial
  have accepted := (keeps.finalState (.refl _ _)).accepted _ sent
  have interfaces : sr.ifList = ifList := run.ifList
  refine ⟨accepted.1, ?_, srSendPacket_accepted accepted⟩
  have matching : srEtherAddrsMatchInterface sr.ifList buf iface = true := accepted.2
  rw [interfaces, srEtherAddrsMatchInterface] at matching
  cases found : srGetInterface ifList iface with
  | none => rw [found] at matching; cases matching
  | some interface =>
      rw [found] at matching
      exact ⟨interface, rfl, of_decide_eq_true matching⟩

def releasedDatagram : Bytes :=
  [2, 0, 0, 0, 0, 9] ++ eth0.addr.toList ++ forwardedDatagram.drop etherType

/-- The ARP reply of the gateway releases the datagram that waits for it. -/
theorem waitingNetwork_frames_accepted :
    .sendPacket releasedDatagram (strncpy srIfaceNamelen eth0.name) ∈
        (finalState ((Operation.handlePacket (arpReplyFrom 9 9) eth0.name).perform noMemory 1)
          (waitingNetwork.atTime 101)).trace.drop waitingNetwork.trace.length ∧
      sizeofEthernetHdr ≤ releasedDatagram.length ∧
      (∃ interface, srGetInterface [eth0] (strncpy srIfaceNamelen eth0.name) = some interface ∧
        (releasedDatagram.drop etherShost).take 6 = interface.addr.toList) ∧
      ∃ next, srSendPacket releasedDatagram (strncpy srIfaceNamelen eth0.name) waitingNetwork =
        .ok 0 next := by
  have sent : .sendPacket releasedDatagram (strncpy srIfaceNamelen eth0.name) ∈
      (finalState ((Operation.handlePacket (arpReplyFrom 9 9) eth0.name).perform noMemory 1)
        (waitingNetwork.atTime 101)).trace.drop waitingNetwork.trace.length := by
    decide +kernel
  exact ⟨sent, frames_accepted run_waitingNetwork noMemory 1
    (.handlePacket (arpReplyFrom 9 9) eth0.name) 101 sent⟩

end Cmput313.Router
