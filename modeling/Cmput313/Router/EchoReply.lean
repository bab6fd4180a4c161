import Cmput313.Router.Dispatch

/-!
# The answer to an echo request

`send_icmp_msg` edits the request in place: it exchanges the addresses, sets type and
code and computes the ICMP checksum.  The header checksum stays, since the sum of a
header does not depend on the order of its words.
-/

set_option autoImplicit false

namespace Cmput313.Router

open Cmput313.Bytes Cmput313.OnesComplement Cmput313.Program

variable (memory : Memory)

/-! ## The edits -/

/-- What is written to the request before the ICMP checksum, in the order of the source. -/
def echoReplyWrites (frame : Bytes) (type code : UInt8) : List (Nat × Bytes) :=
  let icmpHdr := sizeofEthernetHdr + headerSize memory frame
  [(etherShost, List.replicate 6 0), (etherDhost, List.replicate 6 0),
    (ipDst, bytes32 (frameSrc memory frame)), (ipSrc, bytes32 (frameDst memory frame)),
    (icmpHdr, [type]), (icmpHdr + 1, [code]), (icmpHdr + 2, bytes16 0)]

def clearedReply (frame : Bytes) (type code : UInt8) : Bytes :=
  putAll (echoReplyWrites memory frame type code) frame

def messageSize (frame : Bytes) : Nat := frameIpLen memory frame - headerSize memory frame

def echoReplyPacket (frame : Bytes) (type code : UInt8) : Bytes :=
  let icmpHdr := sizeofEthernetHdr + headerSize memory frame
  let packet := clearedReply memory frame type code
  put packet (icmpHdr + 2)
    (bytes16 (cksum (read memory.beyond packet icmpHdr (messageSize memory frame))))

/-- Behind the Ethernet addresses, no IP address, and no field of the ICMP header that
the reply sets. -/
structure Unedited (frame : Bytes) (index : Nat) : Prop where
  behind : etherType ≤ index
  addresses : index < ipSrc ∨ ipDst + 4 ≤ index
  message : index < sizeofEthernetHdr + headerSize memory frame ∨
    sizeofEthernetHdr + headerSize memory frame + 4 ≤ index

section Edits

variable {memory} {frame : Bytes} (fixedHeader : sizeofIpHdr ≤ headerSize memory frame)
  (room : sizeofEthernetHdr + headerSize memory frame + 4 ≤ frame.length)
  (type code : UInt8)

include fixedHeader room

theorem fit_echoReplyWrites : Fit (echoReplyWrites memory frame type code) frame.length := by
  rw [sizeofIpHdr] at fixedHeader
  rw [sizeofEthernetHdr] at room
  simp only [Fit, echoReplyWrites, List.forall_mem_cons, List.not_mem_nil, false_implies,
    implies_true, and_true, List.length_replicate, bytes32_length, bytes16_length,
    List.length_singleton, etherShost, etherDhost, ipDst, ipSrc, sizeofEthernetHdr]
  omega

theorem fit_take_echoReplyWrites (count : Nat) :
    Fit ((echoReplyWrites memory frame type code).take count) frame.length :=
  fun write member => fit_echoReplyWrites fixedHeader room type code write
    (List.mem_of_mem_take member)

theorem edited_length (count : Nat) :
    (putAll ((echoReplyWrites memory frame type code).take count) frame).length =
      frame.length :=
  putAll_length (fit_take_echoReplyWrites fixedHeader room type code count)

omit fixedHeader room in
theorem Unedited.outside {index : Nat} (unedited : Unedited memory frame index) :
    ∀ write ∈ echoReplyWrites memory frame type code,
      index < write.1 ∨ write.1 + write.2.length ≤ index := by
  obtain ⟨behind, addresses, message⟩ := unedited
  rw [etherType] at behind
  rw [ipSrc, ipDst] at addresses
  simp only [echoReplyWrites, List.forall_mem_cons, List.not_mem_nil, false_implies,
    implies_true, and_true, List.length_replicate, bytes32_length, bytes16_length,
    List.length_singleton, etherShost, etherDhost, ipDst, ipSrc]
  omega

theorem peek_edited (count : Nat) {index : Nat} (unedited : Unedited memory frame index) :
    peek memory.beyond (putAll ((echoReplyWrites memory frame type code).take count) frame)
        index = peek memory.beyond frame index :=
  peek_putAll_outside memory.beyond
    (fun write member => unedited.outside type code write (List.mem_of_mem_take member))
    (fit_take_echoReplyWrites fixedHeader room type code count)

omit room in
theorem unedited_front {index : Nat} (behind : etherType ≤ index) (front : index < ipSrc) :
    Unedited memory frame index := by
  refine ⟨behind, Or.inl front, Or.inl ?_⟩
  rw [ipSrc] at front
  rw [sizeofIpHdr] at fixedHeader
  rw [sizeofEthernetHdr]
  omega

theorem edit_fits (count : Nat) {write : Nat × Bytes}
    (own : write ∈ echoReplyWrites memory frame type code) :
    write.1 + write.2.length ≤
      (putAll ((echoReplyWrites memory frame type code).take count) frame).length := by
  rw [edited_length fixedHeader room]
  exact fit_echoReplyWrites fixedHeader room type code write own

theorem peek_clearedReply {index : Nat} (unedited : Unedited memory frame index) :
    peek memory.beyond (clearedReply memory frame type code) index =
      peek memory.beyond frame index :=
  peek_edited fixedHeader room type code 7 unedited

theorem clearedReply_length :
    (clearedReply memory frame type code).length = frame.length :=
  edited_length fixedHeader room type code 7

theorem checksum_leadsTo (handle : Nat → Sr Unit) (tag : Tag) (gw : UInt32)
    (interface : Option SrIf) :
    LeadsTo
      (do
        let len ← load16 memory ⟨tag, clearedReply memory frame type code⟩ ipLen
        let vhl ← load8 memory ⟨tag, clearedReply memory frame type code⟩ ipVhl
        let data ← load memory ⟨tag, clearedReply memory frame type code⟩
          (sizeofEthernetHdr + headerSize memory frame)
          ((ntohs len).toNat - headerLength vhl * 4)
        let packet ← store ⟨tag, clearedReply memory frame type code⟩
          (sizeofEthernetHdr + headerSize memory frame + 2) (bytes16 (cksum data))
        sendOrQueue handle gw packet interface)
      (sendOrQueue handle gw ⟨tag, echoReplyPacket memory frame type code⟩ interface) := by
  have kept := fun index => @peek_clearedReply memory frame fixedHeader room type code index
  have vhl : peek memory.beyond (clearedReply memory frame type code) ipVhl =
      peek memory.beyond frame ipVhl :=
    kept ipVhl (unedited_front fixedHeader (by decide) (by decide))
  have len : peek16 memory.beyond (clearedReply memory frame type code) ipLen =
      peek16 memory.beyond frame ipLen := by
    rw [peek16, peek16, kept ipLen (unedited_front fixedHeader (by decide) (by decide)),
      kept (ipLen + 1) (unedited_front fixedHeader (by decide) (by decide))]
  refine leadsTo_load16 (leadsTo_load8 ?_)
  rw [vhl, len]
  refine leadsTo_load (leadsTo_store ?_ (LeadsTo.refl _))
  rw [clearedReply_length fixedHeader room, bytes16_length]
  exact room

/-- The program reads back nothing of what it wrote, apart from the ICMP message. -/
theorem sendEchoReply_leadsTo (handle : Nat → Sr Unit) (tag : Tag) (rtEntry : SrRt)
    (interface : Option SrIf) :
    LeadsTo (sendEchoReply memory handle ⟨tag, frame⟩ type code rtEntry interface)
      (sendOrQueue handle rtEntry.gw ⟨tag, echoReplyPacket memory frame type code⟩
        interface) := by
  have fits := fun count => @edit_fits memory frame fixedHeader room type code count
  have shost : etherShost + (List.replicate 6 (0 : UInt8)).length ≤ frame.length :=
    fits 0 (List.mem_cons_self ..)
  have dhost : etherDhost + (List.replicate 6 (0 : UInt8)).length ≤
      (put frame etherShost (List.replicate 6 0)).length :=
    fits 1 (.tail _ (List.mem_cons_self ..))
  have dst : peek32 memory.beyond
      (put (put frame etherShost (List.replicate 6 0)) etherDhost (List.replicate 6 0)) ipDst =
        frameDst memory frame := by
    rw [peek32_put_outside memory.beyond dhost (Or.inr (by decide)),
      peek32_put_outside memory.beyond shost (Or.inr (by decide)), frameDst]
  have src : peek32 memory.beyond
      (put (put frame etherShost (List.replicate 6 0)) etherDhost (List.replicate 6 0)) ipSrc =
        frameSrc memory frame := by
    rw [peek32_put_outside memory.beyond dhost (Or.inr (by decide)),
      peek32_put_outside memory.beyond shost (Or.inr (by decide)), frameSrc]
  have addressed : peek memory.beyond (put (put (put (put frame etherShost
      (List.replicate 6 0)) etherDhost (List.replicate 6 0))
      ipDst (bytes32 (frameSrc memory frame))) ipSrc (bytes32 (frameDst memory frame))) ipVhl =
        peek memory.beyond frame ipVhl :=
    peek_edited fixedHeader room type code 4
      (unedited_front fixedHeader (by decide) (by decide))
  refine leadsTo_store shost (leadsTo_store dhost (leadsTo_load32 (leadsTo_load32 ?_)))
  rw [dst, src]
  refine leadsTo_store (fits 2 (.tail _ (.tail _ (List.mem_cons_self ..)))) ?_
  refine leadsTo_store (fits 3 (.tail _ (.tail _ (.tail _ (List.mem_cons_self ..))))) ?_
  refine leadsTo_load8 ?_
  rw [addressed]
  refine leadsTo_store (fits 4 (.tail _ (.tail _ (.tail _ (.tail _ (List.mem_cons_self ..)))))) ?_
  refine leadsTo_store (fits 5 (.tail _ (.tail _ (.tail _ (.tail _ (.tail _
    (List.mem_cons_self ..))))))) ?_
  refine leadsTo_store (fits 6 (.tail _ (.tail _ (.tail _ (.tail _ (.tail _ (.tail _
    (List.mem_cons_self ..)))))))) ?_
  exact checksum_leadsTo fixedHeader room type code handle tag rtEntry.gw interface

end Edits

/-! ## What is emitted -/

section Emitted

variable {memory} {sr : SrInstance} {frame : Bytes}
  (fixedHeader : sizeofIpHdr ≤ headerSize memory frame)
  (room : sizeofEthernetHdr + headerSize memory frame + 4 ≤ frame.length)

include fixedHeader room

theorem echoReplyPacket_length (type code : UInt8) :
    (echoReplyPacket memory frame type code).length = frame.length := by
  have length := clearedReply_length fixedHeader room type code
  rw [echoReplyPacket, put_length, length]
  rw [length, bytes16_length]
  exact room

theorem emitted_sendIcmpMsg_echoReply (depth : Nat) (tag : Tag) (code : UInt8) :
    emitted (sendIcmpMsg memory (handleArpreq memory depth) ⟨tag, frame⟩ icmpTypeEchoReply
        code) sr =
      (outgoingRoute sr (frameSrc memory frame)).map fun out =>
        outgoingFrame sr.entries out.1.gw
          (echoReplyPacket memory frame icmpTypeEchoReply code) out.2 := by
  obtain ⟨noted, run⟩ := @sendIcmpMsg_continues memory (handleArpreq memory depth) sr
    ⟨tag, frame⟩ icmpTypeEchoReply code
  rw [outgoingRoute]
  cases routed : longestPrefixMatching sr.routingTable (frameSrc memory frame) with
  | none =>
      rw [routed] at run
      exact emitted_eq_none noted (congrArg SrInstance.trace (by rw [finalState, run]; rfl))
  | some rtEntry =>
      simp only [routed, if_true] at run
      obtain ⟨accesses, tail⟩ := sendEchoReply_leadsTo fixedHeader room icmpTypeEchoReply code
        (handleArpreq memory depth) tag rtEntry (srGetInterface sr.ifList rtEntry.interface)
        ((sr.record (.icmp tag icmpTypeEchoReply code)).accessed
          [⟨tag, 0, sizeofIpHdr⟩, ⟨tag, ipSrc, 4⟩])
      have reached := noted.trans (noted_accessed _ accesses)
      cases found : srGetInterface sr.ifList rtEntry.interface with
      | none =>
          rw [found] at run tail
          simp only [found, Option.map_none]
          exact emitted_of_tail_none reached (run.trans tail)
      | some interface =>
          rw [found] at run tail
          simp only [found, Option.map_some]
          have long : 34 ≤ (echoReplyPacket memory frame icmpTypeEchoReply code).length := by
            rw [echoReplyPacket_length fixedHeader room]
            rw [sizeofIpHdr] at fixedHeader
            rw [sizeofEthernetHdr] at room
            omega
          exact @emitted_of_tail _ _ _ _ _ reached _
            ⟨tag, echoReplyPacket memory frame icmpTypeEchoReply code⟩ _ long (run.trans tail)

end Emitted

/-! ## What the reply says -/

/-- `buf` answers the echo request in `frame`. -/
structure AnswersEcho (frame buf : Bytes) : Prop where
  length : buf.length = frame.length
  src : frameSrc memory buf = frameDst memory frame
  dst : frameDst memory buf = frameSrc memory frame
  type : frameIcmpType memory buf = icmpTypeEchoReply
  code : peek memory.beyond buf (sizeofEthernetHdr + headerSize memory buf + 1) = 0
  header : ChecksumAccepts memory buf (headerSize memory buf)
  message : onesSum (read memory.beyond buf (sizeofEthernetHdr + headerSize memory buf)
    (frameIpLen memory buf - headerSize memory buf)) = 0xffff
  rest : ∀ index, sizeofEthernetHdr ≤ index → Unedited memory frame index →
    buf[index]? = frame[index]?

section Content

variable {memory} {frame : Bytes} (fixedHeader : sizeofIpHdr ≤ headerSize memory frame)
  (room : sizeofEthernetHdr + headerSize memory frame + 4 ≤ frame.length)
  (type code : UInt8)

include fixedHeader room

theorem getElem?_echoReplyPacket {index : Nat} (unedited : Unedited memory frame index) :
    (echoReplyPacket memory frame type code)[index]? = frame[index]? := by
  have length := clearedReply_length fixedHeader room type code
  have fits : ∀ sum : UInt16, sizeofEthernetHdr + headerSize memory frame + 2 +
      (bytes16 sum).length ≤ (clearedReply memory frame type code).length := by
    intro sum
    rw [length, bytes16_length]
    exact room
  have beside := unedited.message
  rw [echoReplyPacket, getElem?_put_outside (fits _) (by rw [bytes16_length]; omega),
    clearedReply, getElem?_putAll_outside (unedited.outside type code)
      (fit_echoReplyWrites fixedHeader room type code)]

theorem peek_echoReplyPacket {index : Nat} (unedited : Unedited memory frame index) :
    peek memory.beyond (echoReplyPacket memory frame type code) index =
      peek memory.beyond frame index := by
  rw [peek, peek, List.getD_eq_getElem?_getD, List.getD_eq_getElem?_getD,
    getElem?_echoReplyPacket fixedHeader room type code unedited]

theorem read_echoReplyPacket {start size : Nat}
    (unedited : ∀ index < size, Unedited memory frame (start + index)) :
    read memory.beyond (echoReplyPacket memory frame type code) start size =
      read memory.beyond frame start size :=
  List.map_congr_left fun index member =>
    peek_echoReplyPacket fixedHeader room type code (unedited index (List.mem_range.mp member))

theorem headerSize_echoReplyPacket :
    headerSize memory (echoReplyPacket memory frame type code) = headerSize memory frame := by
  rw [headerSize, headerSize, peek_echoReplyPacket fixedHeader room type code
    (unedited_front fixedHeader (by decide) (by decide))]

theorem frameIpLen_echoReplyPacket :
    frameIpLen memory (echoReplyPacket memory frame type code) = frameIpLen memory frame := by
  rw [frameIpLen, frameIpLen, peek16, peek16, peek_echoReplyPacket fixedHeader room type code
      (unedited_front fixedHeader (by decide) (by decide)),
    peek_echoReplyPacket fixedHeader room type code
      (unedited_front fixedHeader (by decide) (by decide))]

theorem frameSum_echoReplyPacket :
    frameSum memory (echoReplyPacket memory frame type code) = frameSum memory frame := by
  rw [frameSum, frameSum, peek16, peek16, peek_echoReplyPacket fixedHeader room type code
      (unedited_front fixedHeader (by decide) (by decide)),
    peek_echoReplyPacket fixedHeader room type code
      (unedited_front fixedHeader (by decide) (by decide))]

theorem read_fields_echoReplyPacket :
    read memory.beyond (echoReplyPacket memory frame type code) ipDst 4 =
        bytes32 (frameSrc memory frame) ∧
      read memory.beyond (echoReplyPacket memory frame type code) ipSrc 4 =
        bytes32 (frameDst memory frame) ∧
      read memory.beyond (echoReplyPacket memory frame type code)
        (sizeofEthernetHdr + headerSize memory frame) 1 = [type] ∧
      read memory.beyond (echoReplyPacket memory frame type code)
        (sizeofEthernetHdr + headerSize memory frame + 1) 1 = [code] := by
  have fits := fit_echoReplyWrites fixedHeader room type code
  have last : ∀ sum : UInt16, sizeofEthernetHdr + headerSize memory frame + 2 +
      (bytes16 sum).length ≤ (clearedReply memory frame type code).length := by
    intro sum
    rw [clearedReply_length fixedHeader room, bytes16_length]
    exact room
  rw [sizeofIpHdr] at fixedHeader
  rw [echoReplyPacket]
  generalize cksum _ = sum
  refine ⟨?_, ?_, ?_, ?_⟩
  · rw [read_put_outside _ (last sum) (Or.inl (by rw [ipDst, sizeofEthernetHdr]; omega))]
    refine read_putAll_self memory.beyond ((echoReplyWrites memory frame type code).take 2)
      ((echoReplyWrites memory frame type code).drop 3) ?_ fits
    simp only [echoReplyWrites, List.drop_succ_cons, List.drop_zero, List.forall_mem_cons,
      List.not_mem_nil, false_implies, implies_true, and_true, bytes32_length,
      bytes16_length, List.length_singleton, ipDst, ipSrc, sizeofEthernetHdr]
    omega
  · rw [read_put_outside _ (last sum) (Or.inl (by rw [ipSrc, sizeofEthernetHdr]; omega))]
    refine read_putAll_self memory.beyond ((echoReplyWrites memory frame type code).take 3)
      ((echoReplyWrites memory frame type code).drop 4) ?_ fits
    simp only [echoReplyWrites, List.drop_succ_cons, List.drop_zero, List.forall_mem_cons,
      List.not_mem_nil, false_implies, implies_true, and_true, bytes32_length,
      bytes16_length, List.length_singleton, ipSrc, sizeofEthernetHdr]
    omega
  · rw [read_put_outside _ (last sum) (Or.inl (by omega))]
    refine read_putAll_self memory.beyond ((echoReplyWrites memory frame type code).take 4)
      ((echoReplyWrites memory frame type code).drop 5) ?_ fits
    simp only [echoReplyWrites, List.drop_succ_cons, List.drop_zero, List.forall_mem_cons,
      List.not_mem_nil, false_implies, implies_true, and_true, bytes16_length,
      List.length_singleton]
    omega
  · rw [read_put_outside _ (last sum) (Or.inl (by omega))]
    refine read_putAll_self memory.beyond ((echoReplyWrites memory frame type code).take 5)
      ((echoReplyWrites memory frame type code).drop 6) ?_ fits
    simp only [echoReplyWrites, List.drop_succ_cons, List.drop_zero, List.forall_mem_cons,
      List.not_mem_nil, false_implies, implies_true, and_true, bytes16_length,
      List.length_singleton]
    omega

end Content

section Sums

variable {memory} {frame : Bytes} (fixedHeader : sizeofIpHdr ≤ headerSize memory frame)
  (room : sizeofEthernetHdr + headerSize memory frame + 4 ≤ frame.length)
  (type code : UInt8)

include fixedHeader room

/-- Exchanging two addresses moves words of the header, and leaves their sum. -/
theorem wordSum_header_echoReplyPacket :
    wordSum (headerBytes memory (echoReplyPacket memory frame type code)) =
      wordSum (headerBytes memory frame) := by
  obtain ⟨dst, src, -, -⟩ := read_fields_echoReplyPacket fixedHeader room type code
  have front : read memory.beyond (echoReplyPacket memory frame type code) 14 12 =
      read memory.beyond frame 14 12 :=
    read_echoReplyPacket fixedHeader room type code fun index inside =>
      unedited_front fixedHeader (by rw [etherType]; omega) (by rw [ipSrc]; omega)
  obtain ⟨options, split⟩ := Nat.exists_eq_add_of_le fixedHeader
  have back : read memory.beyond (echoReplyPacket memory frame type code) 34 options =
      read memory.beyond frame 34 options :=
    read_echoReplyPacket fixedHeader room type code fun index inside =>
      ⟨by rw [etherType]; omega, Or.inr (by rw [ipDst]; omega),
        Or.inl (by rw [split, sizeofIpHdr, sizeofEthernetHdr]; omega)⟩
  have ownSrc : read memory.beyond frame 26 4 = bytes32 (frameSrc memory frame) := by
    rw [sizeofEthernetHdr] at room
    rw [sizeofIpHdr] at fixedHeader
    rw [frameSrc, bytes32_peek32 _ (by rw [ipSrc]; omega), read_of_le _ _ (by omega), ipSrc]
  have ownDst : read memory.beyond frame 30 4 = bytes32 (frameDst memory frame) := by
    rw [sizeofEthernetHdr] at room
    rw [sizeofIpHdr] at fixedHeader
    rw [frameDst, bytes32_peek32 _ (by rw [ipDst]; omega), read_of_le _ _ (by omega), ipDst]
  have words : ∀ buffer : Bytes, wordSum (read memory.beyond buffer 14 (20 + options)) =
      wordSum (read memory.beyond buffer 14 12) + (wordSum (read memory.beyond buffer 26 4) +
        (wordSum (read memory.beyond buffer 30 4) +
          wordSum (read memory.beyond buffer 34 options))) := by
    intro buffer
    rw [show 20 + options = 12 + (4 + (4 + options)) by omega, read_append, read_append,
      read_append, wordSum_append _ _ (by rw [read_length]),
      wordSum_append _ _ (by rw [read_length]), wordSum_append _ _ (by rw [read_length])]
  rw [headerBytes, headerBytes, headerSize_echoReplyPacket fixedHeader room, split, sizeofIpHdr,
    sizeofEthernetHdr, words, words, front, back, ownSrc, ownDst]
  rw [ipSrc] at src
  rw [ipDst] at dst
  rw [src, dst]
  omega

theorem checksumAccepts_echoReplyPacket
    (accepted : ChecksumAccepts memory frame (headerSize memory frame)) :
    ChecksumAccepts memory (echoReplyPacket memory frame type code)
      (headerSize memory (echoReplyPacket memory frame type code)) := by
  have size := headerSize_echoReplyPacket fixedHeader room type code
  have replyFixed : sizeofIpHdr ≤ headerSize memory (echoReplyPacket memory frame type code) := by
    rw [size]
    exact fixedHeader
  have wholeHeader : sizeofEthernetHdr + headerSize memory frame ≤ frame.length := by omega
  have replyWhole : sizeofEthernetHdr +
      headerSize memory (echoReplyPacket memory frame type code) ≤
        (echoReplyPacket memory frame type code).length := by
    rw [size, echoReplyPacket_length fixedHeader room]
    exact wholeHeader
  have total := wordSum_header_echoReplyPacket fixedHeader room type code
  have sum := frameSum_echoReplyPacket fixedHeader room type code
  rw [wordSum_headerBytes replyFixed replyWhole, wordSum_headerBytes fixedHeader wholeHeader,
    sum] at total
  rw [checksumAccepts_iff fixedHeader wholeHeader] at accepted
  rw [checksumAccepts_iff replyFixed replyWhole, sum, accepted]
  omega

theorem onesSum_message_echoReplyPacket (header : 4 ≤ messageSize memory frame) :
    onesSum (read memory.beyond (echoReplyPacket memory frame type code)
      (sizeofEthernetHdr + headerSize memory frame) (messageSize memory frame)) = 0xffff := by
  have length := edited_length fixedHeader room type code 6
  have short : messageSize memory frame ≤ 65535 := by
    have word := (ntohs (peek16 memory.beyond frame ipLen)).toNat_lt
    rw [messageSize, frameIpLen]
    omega
  have cleared : clearedReply memory frame type code =
      put (putAll ((echoReplyWrites memory frame type code).take 6) frame)
        (sizeofEthernetHdr + headerSize memory frame + 2) (bytes16 0) := rfl
  generalize putAll ((echoReplyWrites memory frame type code).take 6) frame = edited
    at length cleared
  have fits : ∀ word : UInt16, sizeofEthernetHdr + headerSize memory frame + 2 +
      (bytes16 word).length ≤ edited.length := by
    intro word
    rw [bytes16_length, length]
    exact room
  have within : ∀ word : UInt16, 2 + (bytes16 word).length ≤ messageSize memory frame := by
    intro word
    rw [bytes16_length]
    exact header
  rw [echoReplyPacket, cleared, read_put_within _ (by rw [put_length (fits 0)]; exact fits _)
    (within _), read_put_within _ (fits 0) (within 0)]
  refine (onesSum_put_cksum ?_ (by decide) ?_).1
  · rw [read_length]
    exact short
  · rw [read_length]
    exact header

theorem answersEcho_echoReplyPacket
    (accepted : ChecksumAccepts memory frame (headerSize memory frame))
    (header : 4 ≤ messageSize memory frame) :
    AnswersEcho memory frame (echoReplyPacket memory frame icmpTypeEchoReply 0) := by
  obtain ⟨dst, src, type, code⟩ :=
    read_fields_echoReplyPacket fixedHeader room icmpTypeEchoReply 0
  have size := headerSize_echoReplyPacket fixedHeader room icmpTypeEchoReply 0
  have ipLen := frameIpLen_echoReplyPacket fixedHeader room icmpTypeEchoReply 0
  refine ⟨echoReplyPacket_length fixedHeader room _ _, peek32_of_read _ src,
    peek32_of_read _ dst, ?_, ?_, checksumAccepts_echoReplyPacket fixedHeader room _ _ accepted,
    ?_, fun index _ unedited => getElem?_echoReplyPacket fixedHeader room _ _ unedited⟩
  · rw [frameIcmpType, size, ← Nat.add_zero (sizeofEthernetHdr + headerSize memory frame),
      ← peek_read memory.beyond _ (show 0 < 1 by decide), type]
    rfl
  · rw [size, ← Nat.add_zero (sizeofEthernetHdr + headerSize memory frame + 1),
      ← peek_read memory.beyond _ (show 0 < 1 by decide), code]
    rfl
  · rw [size, ipLen]
    exact onesSum_message_echoReplyPacket fixedHeader room _ _ header

end Sums

theorem AnswersEcho.of_sameDatagram {memory : Memory} {frame left right : Bytes}
    (answers : AnswersEcho memory frame right)
    (fixedHeader : sizeofIpHdr ≤ headerSize memory right)
    (wholeHeader : sizeofEthernetHdr + headerSize memory right ≤ right.length)
    (length : left.length = right.length) (same : SameDatagram memory left right)
    (bytes : ∀ index, sizeofEthernetHdr ≤ index → left[index]? = right[index]?) :
    AnswersEcho memory frame left := by
  have size := same.headerSize
  refine ⟨?_, ?_, ?_, ?_, ?_, ?_, ?_, ?_⟩
  · rw [length, answers.length]
  · exact (same.peek32 (by decide)).trans answers.src
  · exact (same.peek32 (by decide)).trans answers.dst
  · rw [frameIcmpType, size, same _ (Nat.le_add_right _ _)]
    exact answers.type
  · rw [size, same _ (by omega), answers.code]
  · refine (same.checksumAccepts length ?_ ?_).mpr answers.header
    · rw [size]
      exact fixedHeader
    · rw [size, length]
      exact wholeHeader
  · rw [size, same.frameIpLen, same.read (Nat.le_add_right _ _)]
    exact answers.message
  · intro index behind unedited
    rw [bytes index behind, answers.rest index behind unedited]

/-! ## From the request to the reply -/

structure EchoRequest (memory : Memory) (sr : SrInstance) (frame : Bytes) : Prop
    extends AcceptedFrame memory frame where
  wholeMessage : headerSize memory frame + 8 ≤ frameIpLen memory frame
  ttl : 1 < frameTtl memory frame
  own : ∃ walker ∈ sr.ifList, walker.ip = frameDst memory frame
  icmp : frameProtocol memory frame = ipProtocolIcmp
  request : frameIcmpType memory frame = icmpTypeEchoRequest

section Answer

variable {memory : Memory} {sr : SrInstance} {frame : Bytes}
  (request : EchoRequest memory sr frame) (depth : Nat) (arrival : Name)

include request

theorem EchoRequest.room :
    sizeofEthernetHdr + headerSize memory frame + 4 ≤ frame.length := by
  have wholeDatagram := request.wellFormed.wholeDatagram
  have wholeMessage := request.wholeMessage
  omega

theorem EchoRequest.emitted_eq :
    emitted (srHandlepacket memory depth ⟨.frame, frame⟩ arrival) sr =
      if frameDst memory frame = 0 then none
      else (outgoingRoute sr (frameSrc memory frame)).map fun out =>
        outgoingFrame sr.entries out.1.gw
          (echoReplyPacket memory frame icmpTypeEchoReply 0) out.2 := by
  by_cases zero : frameDst memory frame = 0
  · obtain ⟨accesses, stops⟩ := request.toAcceptedFrame.zeroDestination depth arrival
      request.ttl zero
    rw [if_pos zero]
    exact emitted_eq_none (noted_accessed sr accesses) (by rw [finalState, stops])
  · obtain ⟨accesses, passed⟩ :=
      request.toAcceptedFrame.passedLocally depth arrival request.ttl zero request.own
    obtain ⟨later, delivered⟩ := deliverLocally_of_echoRequest request.icmp request.request
      (sr.accessed accesses)
    rw [accessed_accessed] at delivered
    rw [if_neg zero, emitted_of_report (noted_accessed sr (accesses ++ later))
        (passed.trans delivered),
      emitted_sendIcmpMsg_echoReply request.wellFormed.fixedHeader request.room]
    rfl

theorem EchoRequest.answers (rtEntry : SrRt) (interface : SrIf) :
    AnswersEcho memory frame (outgoingFrame sr.entries rtEntry.gw
      (echoReplyPacket memory frame icmpTypeEchoReply 0) interface) := by
  have fixedHeader := request.wellFormed.fixedHeader
  have room := request.room
  have header : 4 ≤ messageSize memory frame := by
    have wholeMessage := request.wholeMessage
    rw [messageSize]
    omega
  have size := headerSize_echoReplyPacket fixedHeader room icmpTypeEchoReply 0
  have replyLength := echoReplyPacket_length fixedHeader room icmpTypeEchoReply 0
  have long : 34 ≤ (echoReplyPacket memory frame icmpTypeEchoReply 0).length := by
    rw [replyLength]
    exact request.wellFormed.long
  obtain ⟨length, same, bytes⟩ :=
    @sameDatagram_outgoingFrame memory sr.entries rtEntry.gw _ long interface
  refine (answersEcho_echoReplyPacket fixedHeader room request.checksum header).of_sameDatagram
    ?_ ?_ length same bytes
  · rw [size]
    exact fixedHeader
  · rw [size, replyLength]
    omega

/-- Every reply to an accepted echo request has the exchanged addresses, type and code 0,
both checksums right and all other bytes of the request. -/
theorem echoRequest_answered :
    ((emitted (srHandlepacket memory depth ⟨.frame, frame⟩ arrival) sr).isSome ↔
      frameDst memory frame ≠ 0 ∧ (outgoingRoute sr (frameSrc memory frame)).isSome) ∧
    ∀ buf, emitted (srHandlepacket memory depth ⟨.frame, frame⟩ arrival) sr = some buf →
      AnswersEcho memory frame buf := by
  rw [request.emitted_eq depth arrival]
  by_cases zero : frameDst memory frame = 0
  · simp [zero]
  rw [if_neg zero]
  refine ⟨by simp [zero], ?_⟩
  intro buf sent
  obtain ⟨⟨rtEntry, interface⟩, -, rfl⟩ := Option.map_eq_some_iff.mp sent
  exact request.answers rtEntry interface

end Answer

/-- An echo request with a message of nine bytes, from 10.0.0.2 to the router. -/
def echoRequestFrame : Bytes :=
  [2, 0, 0, 0, 0, 1, 2, 0, 0, 0, 0, 2, 8, 0,
    0x45, 0, 0, 29, 0, 0, 0, 0, 64, 1, 0x66, 0xde, 10, 0, 0, 2, 10, 0, 0, 1,
    8, 0, 0xf6, 0xfc, 0, 1, 0, 2, 1]

theorem echoRequestFrame_answered :
    ((emitted (srHandlepacket noMemory 1 ⟨.frame, echoRequestFrame⟩ eth0.name)
        smallNetwork).isSome ↔
      frameDst noMemory echoRequestFrame ≠ 0 ∧
        (outgoingRoute smallNetwork (frameSrc noMemory echoRequestFrame)).isSome) ∧
    ∀ buf, emitted (srHandlepacket noMemory 1 ⟨.frame, echoRequestFrame⟩ eth0.name)
        smallNetwork = some buf →
      AnswersEcho noMemory echoRequestFrame buf :=
  echoRequest_answered ⟨⟨by decide, ⟨by decide, by decide, by decide⟩, by decide +kernel⟩,
    by decide, by decide, by decide, by decide, by decide⟩ 1 eth0.name

end Cmput313.Router
