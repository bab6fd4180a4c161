import Cmput313.Router.FrameBounds

/-!
# Which bytes of a received ARP frame are touched

The ARP branch of `sr_handlepacket` has no length test of its own.  The filter in
front of it does, but a frame too short for an ARP header passes the filter.
-/

set_option autoImplicit false

namespace Cmput313.Router

open Cmput313.Bytes Cmput313.Program

variable (memory : Memory)

/-- An access to the frame or to the answer lies in their common length. -/
def Access.InArp (length : Nat) (access : Access) : Prop :=
  access.tag = .frame ∨ access.tag = .arpReply → access.Within length

theorem access_inArp {length : Nat} {tag : Tag} {offset size : Nat}
    (inside : offset + size ≤ length) : (⟨tag, offset, size⟩ : Access).InArp length :=
  fun _ => within_iff.mpr (Or.inr inside)

theorem keeps_inArp_sendWaiting {length : Nat} {start : SrInstance} (mac : Mac)
    (packet : SrPacket) :
    KeepsTouches (Access.InArp length) start (sendWaiting mac packet)
      fun _ => True := by
  refine keeps_bind keeps_get fun sr _ => ?_
  cases srGetInterface sr.ifList packet.iface with
  | none => exact keeps_pure trivial
  | some interface =>
      refine keeps_then (keeps_touches_storeAll _ _ fun write _ => ?_) fun _ => ?_
      · simp [Access.InArp]
      · exact keeps_then (keeps_touches_srSendPacket _ _) fun _ => keeps_pure trivial

section Long

variable {start : SrInstance} {frame : Bytes}
  (whole : sizeofEthernetHdr + sizeofArpHdr ≤ frame.length)

include whole

theorem arpReplyFields_inArp (interface : SrIf) {sha sip : Bytes} (shaLength : sha.length = 6)
    (sipLength : sip.length = 4) :
    ∀ write ∈ arpReplyFields interface sha sip,
      (⟨.arpReply, write.1, write.2.length⟩ : Access).InArp frame.length := by
  rw [sizeofEthernetHdr, sizeofArpHdr] at whole
  have fields : ∀ write ∈ arpReplyFields interface sha sip,
      write.1 + write.2.length ≤ 42 := by
    simp [arpReplyFields, shaLength, sipLength, etherType, arHrd, arPro, arHln, arPln, arOp,
      arSha, arSip, arTha, arTip]
  intro write member
  exact access_inArp (Nat.le_trans (fields write member) whole)

theorem keeps_inArp_replyToArpRequest (arrival : Name) :
    KeepsTouches (Access.InArp frame.length) start
      (replyToArpRequest memory ⟨.frame, frame⟩ arrival) fun _ => True := by
  have short : 42 ≤ frame.length := whole
  have loaded : ∀ (offset size : Nat), offset + size ≤ frame.length →
      KeepsTouches (Access.InArp frame.length) start
        (load memory ⟨.frame, frame⟩ offset size) fun bytes => bytes.length = size :=
    fun offset size inside => keeps_bind (keeps_touches_touch (access_inArp inside))
      fun _ _ => keeps_pure (read_length _ _ _ _)
  refine keeps_bind keeps_get fun sr _ => ?_
  refine keeps_bind (loaded _ _ (by simp)) fun copy _ => ?_
  refine keeps_bind (loaded _ _ (by rw [etherShost]; omega)) fun requester length => ?_
  refine keeps_bind (keeps_touches_store (access_inArp (by rw [length, etherDhost]; omega)))
    fun reply tag => ?_
  refine keeps_then (keeps_touches_dereference _) fun interface => ?_
  refine keeps_bind (keeps_touches_store (access_inArp (by
    rw [Vector.length_toList, etherShost]; omega))) fun stored same => ?_
  refine keeps_bind (loaded _ _ (by rw [arSha]; omega)) fun sha shaLength => ?_
  refine keeps_bind (loaded _ _ (by rw [arSip]; omega)) fun sip sipLength => ?_
  have answer : stored.tag = .arpReply := same.trans tag
  refine keeps_then (keeps_touches_storeAll _ _ (answer ▸
    arpReplyFields_inArp whole interface shaLength sipLength)) fun _ => ?_
  exact keeps_then (keeps_touches_srSendPacket _ _) fun _ => keeps_pure trivial

theorem keeps_inArp_acceptArpReply :
    KeepsTouches (Access.InArp frame.length) start
      (acceptArpReply memory ⟨.frame, frame⟩) fun _ => True := by
  have short : 42 ≤ frame.length := whole
  refine keeps_then (keeps_touches_touch (access_inArp (by rw [arSha]; omega))) fun _ => ?_
  refine keeps_then (keeps_touches_load32 memory (access_inArp (by rw [arSip]; omega)))
    fun sip => ?_
  refine keeps_then (keeps_touches_srArpcacheInsert _ _) fun arpEntry => ?_
  cases arpEntry with
  | none => exact keeps_pure trivial
  | some arpEntry =>
      refine keeps_then (keeps_touches_modify fun _ => rfl) fun _ => ?_
      refine keeps_then (keeps_forM trivial fun packet _ =>
        keeps_inArp_sendWaiting _ packet) fun _ => ?_
      exact keeps_touches_srArpreqDestroy _

theorem keeps_inArp_handleArpFrame (arrival : Name) :
    KeepsTouches (Access.InArp frame.length) start
      (handleArpFrame memory ⟨.frame, frame⟩ arrival) fun _ => True := by
  have short : 42 ≤ frame.length := whole
  refine keeps_then (keeps_touches_load32 memory (access_inArp (by rw [arTip]; omega)))
    fun tip => ?_
  refine keeps_then (keeps_touches_srGetInterfaceByIp _) fun outInterface => ?_
  cases outInterface with
  | none => exact keeps_pure trivial
  | some _ =>
      refine keeps_then (keeps_touches_load16 memory (access_inArp (by rw [arOp]; omega)))
        fun op => ?_
      refine keeps_ite (fun _ => ?_) fun _ => keeps_ite (fun _ => ?_) fun _ => ?_
      · exact keeps_inArp_replyToArpRequest memory whole arrival
      · exact keeps_inArp_acceptArpReply memory whole
      · exact keeps_pure trivial

theorem keeps_inArp_srArpReqNotForUs (arrival : Name) :
    KeepsTouches (Access.InArp frame.length) start
      (srArpReqNotForUs memory ⟨.frame, frame⟩ arrival) fun _ => True := by
  have short : 42 ≤ frame.length := whole
  refine keeps_bind keeps_get fun sr _ => ?_
  refine keeps_ite (fun _ => keeps_pure trivial) fun _ => ?_
  cases srGetInterface sr.ifList arrival with
  | none => exact keeps_throw fun _ => trivial
  | some iface =>
      refine keeps_then (keeps_touches_load16 memory (access_inArp (by
        rw [etherType]; omega))) fun type => ?_
      refine keeps_ite (fun _ => keeps_pure trivial) fun _ => ?_
      refine keeps_then (keeps_touches_load16 memory (access_inArp (by rw [arOp]; omega)))
        fun op => ?_
      refine keeps_ite (fun _ => keeps_pure trivial) fun _ => ?_
      exact keeps_then (keeps_touches_load32 memory (access_inArp (by rw [arTip]; omega)))
        fun tip => keeps_pure trivial

end Long

/-- A frame too short for an ARP header is read at its target address all the same. -/
theorem short_arp_reads_target {frame : Bytes}
    (arp : frameEthertype memory frame = ethertypeArp)
    (long : sizeofEthernetHdr ≤ frame.length)
    (short : frame.length < sizeofEthernetHdr + sizeofArpHdr) (sr : SrInstance)
    (depth : Nat) (arrival : Name) :
    (sr.accessed [⟨.frame, etherType, 2⟩, ⟨.frame, arTip, 4⟩]).accesses <+:
      (finalState (receiveFrame memory depth frame arrival) sr).accesses := by
  have passed : srArpReqNotForUs memory ⟨.frame, frame⟩ arrival sr =
      (pure false : Sr Bool) sr := by
    apply result_eq_of_ends_iff
    intro returned stopped
    rw [srArpReqNotForUs, ends_bind, ends_get, ends_ite, if_pos short]
  have enough : ¬ frame.length < sizeofEthernetHdr := Nat.not_lt.mpr long
  have reads : Ends (receiveFrame memory depth frame arrival) sr
      (fun _ next => (sr.accessed [⟨.frame, etherType, 2⟩, ⟨.frame, arTip, 4⟩]).accesses <+:
        next.accesses)
      (fun _ next => (sr.accessed [⟨.frame, etherType, 2⟩, ⟨.frame, arTip, 4⟩]).accesses <+:
        next.accesses) := by
    rw [receiveFrame, ends_bind, ends_iff_of_ok passed, ends_ite, if_neg Bool.false_ne_true,
      ends_srHandlepacket, if_neg enough, if_pos arp, handleArpFrame, ends_bind, ends_load32,
      ends_bind, ends_srGetInterfaceByIp, touched_eq_accessed, touched_eq_accessed,
      accessed_accessed]
    split
    · exact List.prefix_rfl
    · split
      · exact List.prefix_rfl
      · have answers : KeepsMoves True
            (sr.accessed [⟨.frame, etherType, 2⟩, ⟨.frame, arTip, 4⟩])
            (answerArpFrame memory ⟨.frame, frame⟩ arrival) fun _ => True :=
          keeps_moves_answerArpFrame memory _ _
        exact (answers _ (Moves.refl _)).mono (fun _ _ kept => kept.1.grows.accesses)
          fun _ _ kept => kept.1.grows.accesses
  exact reads.finalState

/-- The filter and the ARP branch read a frame, and write its answer, inside its length
exactly when it holds an ARP header. -/
theorem arp_accesses_inside_iff {frame : Bytes}
    (arp : frameEthertype memory frame = ethertypeArp)
    (long : sizeofEthernetHdr ≤ frame.length) (sr : SrInstance) (depth : Nat)
    (arrival : Name) :
    Touches (Access.InArp frame.length) sr
        (finalState (receiveFrame memory depth frame arrival) sr) ↔
      sizeofEthernetHdr + sizeofArpHdr ≤ frame.length := by
  constructor
  · intro touches
    by_contra short
    have reads := short_arp_reads_target memory arp long (Nat.not_le.mp short) sr depth arrival
    have inside := ((touches_iff_of_accessed reads).mp touches).1
    have target := inside ⟨.frame, arTip, 4⟩ (by simp) (Or.inl rfl) 3 (by decide)
    exact short target
  · intro whole
    have notIp : ¬ frame.length < sizeofEthernetHdr := Nat.not_lt.mpr long
    have handles : KeepsTouches (Access.InArp frame.length) sr
        (receiveFrame memory depth frame arrival) fun _ => True := by
      refine keeps_then (keeps_inArp_srArpReqNotForUs memory whole arrival) fun notForUs => ?_
      refine keeps_ite (fun _ => keeps_pure trivial) fun _ => ?_
      intro reached touches
      rw [ends_srHandlepacket, if_neg notIp, if_pos arp, touched_eq_accessed]
      refine keeps_inArp_handleArpFrame memory whole arrival _ (touches.accessed ?_)
      rw [sizeofEthernetHdr] at long
      simpa using access_inArp (by rw [etherType]; omega)
    exact handles.finalState (Touches.refl _ sr)

theorem arpReply_accesses_inside :
    Touches (Access.InArp (arpReplyFrom 9 9).length) smallNetwork
        (finalState (receiveFrame noMemory 1 (arpReplyFrom 9 9) eth0.name) smallNetwork) ↔
      sizeofEthernetHdr + sizeofArpHdr ≤ (arpReplyFrom 9 9).length :=
  arp_accesses_inside_iff noMemory (by decide +kernel) (by decide) smallNetwork 1 eth0.name

def bareArpFrame : Bytes := [255, 255, 255, 255, 255, 255, 2, 0, 0, 0, 0, 2, 8, 6]

/-- It passes the filter, and is read behind its end. -/
theorem bareArpFrame_overruns :
    frameEthertype noMemory bareArpFrame = ethertypeArp ∧
      sizeofEthernetHdr ≤ bareArpFrame.length ∧
      srArpReqNotForUs noMemory ⟨.frame, bareArpFrame⟩ eth0.name smallNetwork =
        .ok false smallNetwork ∧
      ¬ Touches (Access.InArp bareArpFrame.length) smallNetwork
        (finalState (srHandlepacket noMemory 1 ⟨.frame, bareArpFrame⟩ eth0.name)
          smallNetwork) := by
  refine ⟨by decide +kernel, by decide, rfl, ?_⟩
  rintro ⟨accesses, same, inside⟩
  have made : ⟨.frame, arTip, 4⟩ ∈ (finalState
      (srHandlepacket noMemory 1 ⟨.frame, bareArpFrame⟩ eth0.name)
      smallNetwork).accesses := by
    decide +kernel
  rw [same] at made
  exact absurd (inside _ made (Or.inl rfl) 0 (by decide)) (by decide)

end Cmput313.Router
