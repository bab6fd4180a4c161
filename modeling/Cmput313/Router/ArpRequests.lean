import Cmput313.Router.IpFrame

/-!
# The answer to an ARP request

`sr_arp_req_not_for_us` lets a request through that asks for the receiving
interface's address.  `sr_handlepacket` alone would accept any address of the
router, and answers with the receiving interface's: the two together answer the
question that was asked.
-/

set_option autoImplicit false

namespace Cmput313.Router

open Cmput313.Bytes Cmput313.Program

variable (memory : Memory)

structure ArpRequest (frame : Bytes) : Prop where
  whole : sizeofEthernetHdr + sizeofArpHdr ≤ frame.length
  type : frameEthertype memory frame = ethertypeArp
  op : ntohs (peek16 memory.beyond frame arOp) = arpOpRequest

def frameTip (frame : Bytes) : UInt32 := peek32 memory.beyond frame arTip

/-- The reply that tells the sender of `frame` that `interface` has the address it
asked for, field by field, and what stood behind the request. -/
def arpReplyFrame (interface : SrIf) (frame : Bytes) : Bytes :=
  (frame.drop etherShost).take 6 ++ interface.addr.toList ++
    bytes16 (htons ethertypeArp) ++
    bytes16 (htons arpHrdEthernet) ++ bytes16 (htons ethertypeIp) ++ [6] ++ [4] ++
    bytes16 (htons arpOpReply) ++
    interface.addr.toList ++ (frame.drop arTip).take 4 ++
    (frame.drop arSha).take 6 ++ (frame.drop arSip).take 4 ++
    frame.drop (sizeofEthernetHdr + sizeofArpHdr)

variable {memory}

section Request

variable {frame : Bytes} (request : ArpRequest memory frame)

include request

theorem ArpRequest.reply_bytes {interface : SrIf}
    (asked : frameTip memory frame = interface.ip) :
    putAll ((etherDhost, read memory.beyond frame etherShost 6) ::
        (etherShost, interface.addr.toList) ::
        arpReplyFields interface (read memory.beyond frame arSha 6)
          (read memory.beyond frame arSip 4)) frame =
      arpReplyFrame interface frame := by
  have whole : 42 ≤ frame.length := request.whole
  have sender : ∀ offset size : Nat, offset + size ≤ 42 →
      read memory.beyond frame offset size = (frame.drop offset).take size :=
    fun offset size inside => read_of_le _ _ (Nat.le_trans inside whole)
  have target : bytes32 interface.ip = (frame.drop arTip).take 4 := by
    rw [← asked, frameTip, bytes32_peek32 _ (by rw [arTip]; omega)]
  have lengths : ∀ offset size : Nat, offset + size ≤ 42 →
      ((frame.drop offset).take size).length = size := by
    intro offset size inside
    rw [List.length_take, List.length_drop]
    omega
  rw [sender _ _ (by decide), sender _ _ (by decide), sender _ _ (by decide), arpReplyFields,
    target]
  rw [putAll_contiguous _ 0]
  · simp [arpReplyFrame, lengths, etherShost, arSha, arSip, arTip, sizeofEthernetHdr,
      sizeofArpHdr]
  · simp [Contiguous, lengths, etherShost, arSha, arSip, arTip, etherDhost, etherType, arHrd,
      arPro, arHln, arPln, arOp, arTha]
  · simp [lengths, etherShost, arSha, arSip, arTip]
    omega

theorem ArpRequest.reply_length (interface : SrIf) :
    sizeofEthernetHdr ≤ (arpReplyFrame interface frame).length := by
  have whole : 42 ≤ frame.length := request.whole
  simp only [arpReplyFrame, List.length_append, List.length_take, List.length_drop,
    Vector.length_toList, bytes16_length, List.length_singleton, etherShost, arTip, arSha, arSip,
    sizeofEthernetHdr, sizeofArpHdr]
  omega

theorem ArpRequest.reply_source (interface : SrIf) :
    ((arpReplyFrame interface frame).drop etherShost).take 6 = interface.addr.toList := by
  have whole : 42 ≤ frame.length := request.whole
  have front : ((frame.drop etherShost).take 6).length = etherShost := by
    rw [List.length_take, List.length_drop, etherShost]
    omega
  simp only [arpReplyFrame, List.append_assoc]
  rw [List.drop_left' front, List.take_left' (by simp)]

theorem ArpRequest.reply_events {ifList : List SrIf} {name : Name} {interface : SrIf}
    (found : srGetInterface ifList name = some interface) :
    sendEvents ifList (arpReplyFrame interface frame) interface.name =
      [.sendPacket (arpReplyFrame interface frame) interface.name,
        .wire (packetMessage (arpReplyFrame interface frame) interface.name)] := by
  have own : srEtherAddrsMatchInterface ifList (arpReplyFrame interface frame)
      interface.name = true := by
    rw [srEtherAddrsMatchInterface, srGetInterface_own_name found, request.reply_source]
    exact decide_eq_true rfl
  rw [sendEvents, if_pos ⟨request.reply_length interface, own⟩]

theorem ArpRequest.ends_replyToArpRequest {sr : SrInstance} {arrival : Name}
    {interface : SrIf} (found : srGetInterface sr.ifList arrival = some interface)
    (asked : frameTip memory frame = interface.ip)
    (stopped : Fault → SrInstance → Prop) :
    Ends (replyToArpRequest memory ⟨.frame, frame⟩ arrival) sr
      (fun _ next => ∃ accesses, next =
        (sr.accessed accesses).sendPacket (arpReplyFrame interface frame) interface.name)
      stopped := by
  have whole : 42 ≤ frame.length := request.whole
  have copied : read memory.beyond frame 0 frame.length = frame := by
    rw [read_of_le _ _ (by simp), List.drop_zero, List.take_length]
  have dhost : etherDhost + (read memory.beyond frame etherShost 6).length ≤ frame.length := by
    rw [read_length, etherDhost]; omega
  have shost : etherShost + interface.addr.toList.length ≤
      (put frame etherDhost (read memory.beyond frame etherShost 6)).length := by
    rw [put_length dhost, Vector.length_toList, etherShost]; omega
  have fits : Fit (arpReplyFields interface (read memory.beyond frame arSha 6)
      (read memory.beyond frame arSip 4))
      (put (put frame etherDhost (read memory.beyond frame etherShost 6)) etherShost
        interface.addr.toList).length := by
    rw [put_length shost, put_length dhost]
    intro write member
    have inside : write.1 + write.2.length ≤ 42 := by
      revert write
      simp [arpReplyFields, etherType, arHrd, arPro, arHln, arPln, arOp, arSha, arSip, arTha,
        arTip]
    exact Nat.le_trans inside whole
  have written : putAll (arpReplyFields interface (read memory.beyond frame arSha 6)
      (read memory.beyond frame arSip 4))
      (put (put frame etherDhost (read memory.beyond frame etherShost 6)) etherShost
        interface.addr.toList) = arpReplyFrame interface frame := by
    rw [← request.reply_bytes asked, putAll, putAll, List.foldl_cons, List.foldl_cons]
  simp only [replyToArpRequest, ends_bind, ends_get, found, ends_load, copied, ends_store,
    if_pos dhost, ends_dereference_some, if_pos shost, ends_pure, touched_eq_accessed,
    accessed_accessed]
  generalize put (put frame etherDhost (read memory.beyond frame etherShost 6)) etherShost
    interface.addr.toList = reply at fits written
  rw [ends_storeAll _ _ _ ⟨.arpReply, reply⟩ _ fits, written, accessed_accessed]
  exact ends_srSendPacket _ _ _ _ _ fun _ => ⟨_, rfl⟩

theorem ArpRequest.ends_srArpReqNotForUs {sr : SrInstance} {arrival : Name}
    {interface : SrIf} (found : srGetInterface sr.ifList arrival = some interface)
    (returned : Bool → SrInstance → Prop) (stopped : Fault → SrInstance → Prop) :
    Ends (srArpReqNotForUs memory ⟨.frame, frame⟩ arrival) sr returned stopped ↔
      returned (frameTip memory frame ≠ interface.ip) (sr.accessed
        [⟨.frame, etherType, 2⟩, ⟨.frame, arOp, 2⟩, ⟨.frame, arTip, 4⟩]) := by
  have enough : ¬ frame.length < sizeofEthernetHdr + sizeofArpHdr :=
    Nat.not_lt.mpr request.whole
  have type : peek16 memory.beyond frame etherType = htons ethertypeArp := by
    rw [← request.type, frameEthertype, htons, ntohs, swap16_swap16]
  have op : peek16 memory.beyond frame arOp = htons arpOpRequest := by
    rw [← request.op, htons, ntohs, swap16_swap16]
  simp only [srArpReqNotForUs, ends_bind, ends_get, ends_ite, if_neg enough, found,
    ends_load16, type, ne_eq, not_true_eq_false, if_false, op, ends_load32, ends_pure,
    touched_eq_accessed, accessed_accessed]
  rfl

/-- Filter and handler send the one reply to a request for the receiving interface's
address, and nothing to another; the table and the queue stay as they are. -/
theorem ArpRequest.answered {sr : SrInstance} {arrival : Name} {interface : SrIf}
    (nonzero : ∀ walker ∈ sr.ifList, walker.ip ≠ 0)
    (found : srGetInterface sr.ifList arrival = some interface) (depth : Nat) :
    ∃ next, receiveFrame memory depth frame arrival sr = .ok () next ∧
      next.entries = sr.entries ∧ next.requests = sr.requests ∧
      next.trace = sr.trace ++
        if frameTip memory frame = interface.ip then
          [.sendPacket (arpReplyFrame interface frame) interface.name,
            .wire (packetMessage (arpReplyFrame interface frame) interface.name)]
        else [] := by
  have ends : Ends (receiveFrame memory depth frame arrival) sr
      (fun _ next => next.entries = sr.entries ∧ next.requests = sr.requests ∧
        next.trace = sr.trace ++
          if frameTip memory frame = interface.ip then
            [.sendPacket (arpReplyFrame interface frame) interface.name,
              .wire (packetMessage (arpReplyFrame interface frame) interface.name)]
          else []) fun _ _ => False := by
    rw [receiveFrame, ends_bind, request.ends_srArpReqNotForUs found, ends_ite]
    by_cases asked : frameTip memory frame = interface.ip
    · have target : frameTip memory frame ≠ 0 :=
        asked ▸ nonzero interface (srGetInterface_mem found)
      have known : (sr.ifList.find? fun walker => walker.ip = frameTip memory frame).isSome :=
        List.find?_isSome.mpr ⟨interface, srGetInterface_mem found, by simpa using asked.symm⟩
      obtain ⟨outInterface, known⟩ := Option.isSome_iff_exists.mp known
      have still : ∀ accesses, ((sr.accessed accesses).ifList.find? fun walker =>
          walker.ip = frameTip memory frame) = some outInterface := fun _ => known
      have enough : ¬ frame.length < sizeofEthernetHdr := by
        have whole := request.whole
        omega
      have passes : ¬ decide (frameTip memory frame ≠ interface.ip) = true := by
        simp [asked]
      rw [if_neg passes, if_pos asked, ends_srHandlepacket, if_neg enough, if_pos request.type,
        handleArpFrame, ends_bind, ends_load32, ends_bind, ends_srGetInterfaceByIp, ← frameTip,
        if_neg target]
      simp only [still, answerArpFrame, ends_bind, ends_load16, request.op, if_true,
        touched_eq_accessed, accessed_accessed]
      refine (request.ends_replyToArpRequest (by exact found) asked _).mono ?_
        fun _ _ stops => stops
      rintro _ next ⟨accesses, rfl⟩
      refine ⟨rfl, rfl, ?_⟩
      rw [← request.reply_events found]
      rfl
    · have dropped : decide (frameTip memory frame ≠ interface.ip) = true := by
        simp [asked]
      rw [if_pos dropped, if_neg asked]
      exact ⟨rfl, rfl, (List.append_nil _).symm⟩
  obtain ⟨_, next, run, kept⟩ := ends.exists_ok
  exact ⟨next, run, kept⟩

end Request

/-- 10.0.0.2 at 02:00:00:00:00:02 asks everybody for 10.0.0.1. -/
def whoHasRouter : Bytes :=
  [255, 255, 255, 255, 255, 255, 2, 0, 0, 0, 0, 2, 8, 6,
    0, 1, 8, 0, 6, 4, 0, 1, 2, 0, 0, 0, 0, 2, 10, 0, 0, 2,
    0, 0, 0, 0, 0, 0, 10, 0, 0, 1]

theorem whoHasRouter_answered :
    ∃ next, receiveFrame noMemory 1 whoHasRouter eth0.name smallNetwork = .ok () next ∧
      next.entries = smallNetwork.entries ∧ next.requests = smallNetwork.requests ∧
      next.trace = smallNetwork.trace ++
        if frameTip noMemory whoHasRouter = eth0.ip then
          [.sendPacket (arpReplyFrame eth0 whoHasRouter) eth0.name,
            .wire (packetMessage (arpReplyFrame eth0 whoHasRouter) eth0.name)]
        else [] :=
  ArpRequest.answered ⟨by decide, by decide +kernel, by decide +kernel⟩ (by decide) rfl 1

end Cmput313.Router
