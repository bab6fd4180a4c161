import Cmput313.Router.QueueInvariant

/-!
# What happens to a received IP frame

The header check of `sr_handlepacket`, the second one of `sr_forward_ip_packet`,
and where each sends the frame, with the bytes of it that were accessed on the
way.
-/

set_option autoImplicit false

namespace Cmput313.Router

open Cmput313.Bytes Cmput313.Program

variable (memory : Memory)

/-- The checksum over `size` header bytes, its own field taken as zero, is the
received one. -/
def ChecksumAccepts (frame : Bytes) (size : Nat) : Prop :=
  cksum (read memory.beyond (put frame ipSum (bytes16 0)) sizeofEthernetHdr size) =
    peek16 memory.beyond frame ipSum

instance (frame : Bytes) (size : Nat) : Decidable (ChecksumAccepts memory frame size) :=
  inferInstanceAs (Decidable (_ = _))

def frameEthertype (frame : Bytes) : UInt16 :=
  ntohs (peek16 memory.beyond frame etherType)

def headerSize (frame : Bytes) : Nat :=
  headerLength (peek memory.beyond frame ipVhl) * 4

def frameIpLen (frame : Bytes) : Nat :=
  (ntohs (peek16 memory.beyond frame ipLen)).toNat

def frameTtl (frame : Bytes) : UInt8 := peek memory.beyond frame ipTtl

def frameDst (frame : Bytes) : UInt32 := peek32 memory.beyond frame ipDst

def frameSrc (frame : Bytes) : UInt32 := peek32 memory.beyond frame ipSrc

def forwardedFrame (frame : Bytes) : Bytes :=
  let frame := put frame ipSum (bytes16 0)
  let frame := put frame ipTtl [peek memory.beyond frame ipTtl - 1]
  let frame := put frame ipSum (bytes16 0)
  put frame ipSum
    (bytes16 (cksum (read memory.beyond frame sizeofEthernetHdr sizeofIpHdr)))

theorem rewritten_length {frame : Bytes} (long : 34 ≤ frame.length) (ttl : UInt8) :
    (put frame ipSum (bytes16 0)).length = frame.length ∧
      (put (put frame ipSum (bytes16 0)) ipTtl [ttl]).length = frame.length ∧
      (put (put (put frame ipSum (bytes16 0)) ipTtl [ttl]) ipSum (bytes16 0)).length =
        frame.length := by
  have sumFits : ipSum + (bytes16 0).length ≤ frame.length := by
    rw [ipSum, bytes16_length]; omega
  have cleared := put_length sumFits
  have ttlFits : ipTtl + [ttl].length ≤ (put frame ipSum (bytes16 0)).length := by
    rw [cleared, ipTtl, List.length_singleton]; omega
  have lowered := (put_length ttlFits).trans cleared
  have sumFitsLowered : ipSum + (bytes16 0).length ≤
      (put (put frame ipSum (bytes16 0)) ipTtl [ttl]).length := lowered.symm ▸ sumFits
  exact ⟨cleared, lowered, (put_length sumFitsLowered).trans lowered⟩

theorem forwardedFrame_length {frame : Bytes} (long : 34 ≤ frame.length) :
    (forwardedFrame memory frame).length = frame.length := by
  obtain ⟨_, _, clearedAgain⟩ := rewritten_length long
    (peek memory.beyond (put frame ipSum (bytes16 0)) ipTtl - 1)
  rw [forwardedFrame, put_length, clearedAgain]
  rw [clearedAgain, ipSum, bytes16_length]
  omega

theorem getElem?_forwardedFrame {frame : Bytes} (long : 34 ≤ frame.length) {index : Nat}
    (notTtl : index ≠ ipTtl) (notSum : index ≠ ipSum) (notSumLow : index ≠ ipSum + 1) :
    (forwardedFrame memory frame)[index]? = frame[index]? := by
  rw [forwardedFrame]
  generalize peek memory.beyond (put frame ipSum (bytes16 0)) ipTtl - 1 = ttl
  obtain ⟨cleared, lowered, clearedAgain⟩ := rewritten_length long ttl
  have sumFits : ∀ word : UInt16, ipSum + (bytes16 word).length ≤ frame.length := by
    intro word
    rw [ipSum, bytes16_length]; omega
  have ttlFits : ipTtl + [ttl].length ≤ frame.length := by
    rw [ipTtl, List.length_singleton]; omega
  have besideSum : ∀ word : UInt16, index < ipSum ∨ ipSum + (bytes16 word).length ≤ index := by
    intro word
    rw [bytes16_length]; omega
  have besideTtl : index < ipTtl ∨ ipTtl + [ttl].length ≤ index := by
    rw [List.length_singleton]; omega
  rw [getElem?_put_outside (clearedAgain.symm ▸ sumFits _) (besideSum _),
    getElem?_put_outside (lowered.symm ▸ sumFits _) (besideSum _),
    getElem?_put_outside (cleared.symm ▸ ttlFits) besideTtl,
    getElem?_put_outside (sumFits _) (besideSum _)]

theorem peek_forwardedFrame {frame : Bytes} (long : 34 ≤ frame.length) {index : Nat}
    (notTtl : index ≠ ipTtl) (notSum : index ≠ ipSum) (notSumLow : index ≠ ipSum + 1) :
    peek memory.beyond (forwardedFrame memory frame) index =
      peek memory.beyond frame index := by
  rw [peek, peek, List.getD_eq_getElem?_getD, List.getD_eq_getElem?_getD,
    getElem?_forwardedFrame memory long notTtl notSum notSumLow]

theorem peek32_forwardedFrame {frame : Bytes} (long : 34 ≤ frame.length) {index : Nat}
    (behind : 26 ≤ index) :
    peek32 memory.beyond (forwardedFrame memory frame) index =
      peek32 memory.beyond frame index := by
  have kept : ∀ {byte : Nat}, 26 ≤ byte →
      peek memory.beyond (forwardedFrame memory frame) byte =
        peek memory.beyond frame byte := fun further =>
    peek_forwardedFrame memory long (by rw [ipTtl]; omega) (by rw [ipSum]; omega)
      (by rw [ipSum]; omega)
  rw [peek32, peek32, kept behind, kept (by omega), kept (by omega), kept (by omega)]

/-! ## The bytes each part accesses -/

def headerAccesses (buf : Buf) : List Access :=
  [⟨buf.tag, ipSum, 2⟩, ⟨buf.tag, ipSum, 2⟩, ⟨buf.tag, ipVhl, 1⟩,
    ⟨buf.tag, sizeofEthernetHdr, headerSize memory buf.bytes⟩]

def ttlAccesses (buf : Buf) : List Access :=
  [⟨buf.tag, ipSum, 2⟩, ⟨buf.tag, ipTtl, 1⟩]

def dstAccesses (buf : Buf) : List Access :=
  [⟨buf.tag, ipDst, 4⟩]

def secondCheckAccesses (buf : Buf) : List Access :=
  [⟨buf.tag, ipDst, 4⟩, ⟨buf.tag, ipSum, 2⟩, ⟨buf.tag, ipSum, 2⟩,
    ⟨buf.tag, sizeofEthernetHdr, sizeofIpHdr⟩]

def rewriteAccesses (buf : Buf) : List Access :=
  [⟨buf.tag, ipTtl, 1⟩, ⟨buf.tag, ipTtl, 1⟩, ⟨buf.tag, ipSum, 2⟩,
    ⟨buf.tag, sizeofEthernetHdr, sizeofIpHdr⟩, ⟨buf.tag, ipSum, 2⟩,
    ⟨buf.tag, ipDst, 4⟩]

section Ends

variable (sr : SrInstance) (handle : Nat → Sr Unit) (buf : Buf)
  (returned : Unit → SrInstance → Prop) (stopped : Fault → SrInstance → Prop)

theorem ends_srHandlepacket (depth : Nat) (arrival : Name) :
    Ends (srHandlepacket memory depth buf arrival) sr returned stopped ↔
      if buf.bytes.length < sizeofEthernetHdr then returned () sr
      else if frameEthertype memory buf.bytes = ethertypeArp then
        Ends (handleArpFrame memory buf arrival) (sr.touched buf etherType 2)
          returned stopped
      else if frameEthertype memory buf.bytes = ethertypeIp then
        Ends (handleIpFrame memory (handleArpreq memory depth) buf)
          (sr.touched buf etherType 2) returned stopped
      else returned () (sr.touched buf etherType 2) := by
  simp only [srHandlepacket, ends_ite, ends_bind, ends_load16, ends_pure]
  rfl

theorem ends_handleIpFrame (long : 34 ≤ buf.bytes.length) :
    Ends (handleIpFrame memory handle buf) sr returned stopped ↔
      if ChecksumAccepts memory buf.bytes (headerSize memory buf.bytes) then
        if frameTtl memory buf.bytes ≤ 1 then
          Ends (sendIcmpMsg memory handle buf icmpTypeTimeExceeded 0)
            (sr.accessed (headerAccesses memory buf ++ ttlAccesses buf))
            returned stopped
        else if frameDst memory buf.bytes = 0 then
          stopped (.assertion .ip) (sr.accessed
            (headerAccesses memory buf ++ ttlAccesses buf ++ dstAccesses buf))
        else
          Ends (match sr.ifList.find? fun walker =>
              walker.ip = frameDst memory buf.bytes with
            | some _ => deliverLocally memory handle buf
            | none => srForwardIpPacket memory handle buf)
            (sr.accessed
              (headerAccesses memory buf ++ ttlAccesses buf ++ dstAccesses buf))
            returned stopped
      else returned () (sr.accessed (headerAccesses memory buf)) := by
  have enough : ¬ buf.bytes.length < sizeofEthernetHdr + sizeofIpHdr := by
    rw [sizeofEthernetHdr, sizeofIpHdr]; omega
  have sumFits : ipSum + (bytes16 0).length ≤ buf.bytes.length := by
    rw [ipSum, bytes16_length]; omega
  have sumFitsAgain : ipSum + (bytes16 (peek16 memory.beyond buf.bytes ipSum)).length ≤
      (put buf.bytes ipSum (bytes16 0)).length := by
    rw [put_length sumFits]; exact sumFits
  have restored : put (put buf.bytes ipSum (bytes16 0)) ipSum
      (bytes16 (peek16 memory.beyond buf.bytes ipSum)) = buf.bytes := by
    rw [put_put sumFits (by rfl), put_peek16 memory.beyond sumFits]
  have vhl : peek memory.beyond (put buf.bytes ipSum (bytes16 0)) ipVhl =
      peek memory.beyond buf.bytes ipVhl :=
    peek_put_outside memory.beyond sumFits (Or.inl (by decide))
  simp only [handleIpFrame, ends_ite, if_neg enough, ends_bind, ends_load16, ends_store,
    if_pos sumFits, ends_load8, vhl, ends_load, if_pos sumFitsAgain, restored, ends_pure,
    ends_load32, ends_srGetInterfaceByIp, touched_eq_accessed, accessed_accessed,
    ne_eq, ite_not]
  rfl

/-- `sr_forward_ip_packet`: the second check is over 20 bytes, whatever `ip_hl`. -/
theorem ends_srForwardIpPacket (long : 34 ≤ buf.bytes.length) :
    Ends (srForwardIpPacket memory handle buf) sr returned stopped ↔
      if ChecksumAccepts memory buf.bytes sizeofIpHdr then
        if frameTtl memory buf.bytes ≤ 1 then
          Ends (sendIcmpMsg memory handle
              { buf with bytes := put buf.bytes ipSum (bytes16 0) }
              icmpTypeTimeExceeded 0)
            (sr.accessed (secondCheckAccesses buf ++ [⟨buf.tag, ipTtl, 1⟩]))
            returned stopped
        else
          Ends (match longestPrefixMatching sr.routingTable
                (frameDst memory buf.bytes) with
            | none =>
                sendIcmpMsg memory handle
                  { buf with bytes := forwardedFrame memory buf.bytes }
                  icmpTypeDestUnreachable icmpDestUnreachableNet
            | some routingTableEntry =>
                sendOrQueue handle routingTableEntry.gw
                  { buf with bytes := forwardedFrame memory buf.bytes }
                  (srGetInterface sr.ifList routingTableEntry.interface))
            (sr.accessed (secondCheckAccesses buf ++ rewriteAccesses buf))
            returned stopped
      else returned () (sr.accessed (secondCheckAccesses buf)) := by
  have sumFits : ipSum + (bytes16 0).length ≤ buf.bytes.length := by
    rw [ipSum, bytes16_length]; omega
  have ttl : peek memory.beyond (put buf.bytes ipSum (bytes16 0)) ipTtl =
      frameTtl memory buf.bytes :=
    peek_put_outside memory.beyond sumFits (Or.inl (by decide))
  simp only [srForwardIpPacket, ends_bind, ends_touch, ends_load16, ends_store,
    if_pos sumFits, ends_load, ends_ite, ends_pure, ends_load8, ttl, ends_get,
    touched_eq_accessed, accessed_accessed, ne_eq, ite_not]
  obtain ⟨cleared, lowered, clearedAgain⟩ :=
    rewritten_length long (frameTtl memory buf.bytes - 1)
  have ttlFits : ipTtl + [frameTtl memory buf.bytes - 1].length ≤
      (put buf.bytes ipSum (bytes16 0)).length := by
    rw [cleared, ipTtl, List.length_singleton]; omega
  have sumFitsLowered : ipSum + (bytes16 0).length ≤
      (put (put buf.bytes ipSum (bytes16 0)) ipTtl
        [frameTtl memory buf.bytes - 1]).length := lowered.symm ▸ sumFits
  have sumFitsAgain : ∀ word : UInt16, ipSum + (bytes16 word).length ≤
      (put (put (put buf.bytes ipSum (bytes16 0)) ipTtl
        [frameTtl memory buf.bytes - 1]) ipSum (bytes16 0)).length :=
    fun word => clearedAgain.symm ▸ sumFits
  have dst : peek32 memory.beyond (forwardedFrame memory buf.bytes) ipDst =
      frameDst memory buf.bytes := peek32_forwardedFrame memory long (by decide)
  rw [forwardedFrame, ttl] at dst ⊢
  simp only [if_pos ttlFits, if_pos sumFitsLowered, if_pos (sumFitsAgain _),
    ends_load32, dst, touched_eq_accessed, accessed_accessed,
    eq_comm (a := peek16 memory.beyond buf.bytes ipSum)]
  rfl

end Ends

end Cmput313.Router
