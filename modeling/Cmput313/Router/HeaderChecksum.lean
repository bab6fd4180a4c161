import Cmput313.Router.ForwardChecksum

/-!
# The header test against the sum of the header

A header is valid when the one's-complement sum of all its words is all ones.
`sr_handlepacket` computes the checksum anew and compares bit for bit; `cksum`
never returns 0, so the test misses the valid headers that carry one.
-/

set_option autoImplicit false

namespace Cmput313.Router

open Cmput313.Bytes Cmput313.OnesComplement Cmput313.Program

variable (memory : Memory)

def headerBytes (frame : Bytes) : Bytes :=
  read memory.beyond frame sizeofEthernetHdr (headerSize memory frame)

def frameSum (frame : Bytes) : UInt16 := peek16 memory.beyond frame ipSum

theorem ipSum_eq : ipSum = sizeofEthernetHdr + 10 := rfl

section Header

variable {memory} {frame : Bytes}
  (fixedHeader : sizeofIpHdr ≤ headerSize memory frame)
  (wholeHeader : sizeofEthernetHdr + headerSize memory frame ≤ frame.length)

include fixedHeader wholeHeader

theorem read_put_ipSum (word : UInt16) :
    read memory.beyond (put frame ipSum (bytes16 word)) sizeofEthernetHdr
        (headerSize memory frame) =
      put (headerBytes memory frame) 10 (bytes16 word) := by
  rw [sizeofIpHdr] at fixedHeader
  rw [ipSum_eq, headerBytes]
  apply read_put_within
  · rw [bytes16_length]; omega
  · rw [bytes16_length]; omega

theorem wordSum_headerBytes :
    wordSum (headerBytes memory frame) =
      wordSum (put (headerBytes memory frame) 10 (bytes16 0)) +
        (ntohs (frameSum memory frame)).toNat := by
  have whole := read_put_ipSum fixedHeader wholeHeader (frameSum memory frame)
  rw [sizeofIpHdr] at fixedHeader
  rw [sizeofEthernetHdr] at wholeHeader
  have inside : 10 + 2 ≤ (headerBytes memory frame).length := by
    rw [headerBytes, read_length]; omega
  rw [frameSum, put_peek16 memory.beyond (by rw [ipSum]; omega)] at whole
  rw [← wordSum_put (by decide) inside, frameSum]
  exact congrArg wordSum whole

/-- `ip_v` and `ip_hl` alone keep the sum from vanishing. -/
theorem wordSum_clearedHeader_pos :
    0 < wordSum (put (headerBytes memory frame) 10 (bytes16 0)) := by
  have nonzero : 0 < (peek memory.beyond frame ipVhl).toNat := by
    rw [sizeofIpHdr, headerSize, headerLength] at fixedHeader
    omega
  rw [sizeofIpHdr] at fixedHeader
  rw [sizeofEthernetHdr] at wholeHeader
  have fits : ipSum + (bytes16 0).length ≤ frame.length := by
    rw [ipSum, bytes16_length]; omega
  obtain ⟨rest, size⟩ := Nat.exists_eq_add_of_le
    (show 1 ≤ headerSize memory frame by omega)
  have first : read memory.beyond (put frame ipSum (bytes16 0)) sizeofEthernetHdr 1 =
      [peek memory.beyond frame ipVhl] := by
    rw [read_put_outside memory.beyond fits (Or.inl (by decide))]
    rfl
  rw [← read_put_ipSum (by rw [sizeofIpHdr]; exact fixedHeader)
    (by rw [sizeofEthernetHdr]; exact wholeHeader), size, read_append, first]
  refine Nat.lt_of_lt_of_le ?_ (wordSum_le_append _ [peek memory.beyond frame ipVhl])
  rw [wordSum]
  omega

theorem checksumAccepts_iff :
    ChecksumAccepts memory frame (headerSize memory frame) ↔
      (ntohs (frameSum memory frame)).toNat = 65535 -
        wordSum (put (headerBytes memory frame) 10 (bytes16 0)) % 65535 := by
  have sizeBound := headerSize_le memory frame
  have room : 10 + (bytes16 0).length ≤ (headerBytes memory frame).length := by
    rw [sizeofIpHdr] at fixedHeader
    rw [headerBytes, read_length, bytes16_length]; omega
  have fits : wordSum (put (headerBytes memory frame) 10 (bytes16 0)) < 2 ^ 32 := by
    apply wordSum_lt_of_length
    rw [put_length room, headerBytes, read_length]
    exact sizeBound
  rw [ChecksumAccepts, read_put_ipSum fixedHeader wholeHeader,
    ← toNat_ntohs_cksum fits, frameSum]
  constructor
  · intro same
    rw [same]
  · intro same
    exact swap16_injective (UInt16.toNat_inj.mp same.symm)

theorem onesSum_headerBytes_iff :
    onesSum (headerBytes memory frame) = 0xffff ↔
      (wordSum (put (headerBytes memory frame) 10 (bytes16 0)) +
        (ntohs (frameSum memory frame)).toNat) % 65535 = 0 := by
  have positive := wordSum_clearedHeader_pos fixedHeader wholeHeader
  rw [onesSum_eq_ones_iff, wordSum_headerBytes fixedHeader wholeHeader]
  omega

/-- The test accepts a header exactly when the sum of the header is all ones, the
valid headers with a zero for a checksum apart. -/
theorem checksumAccepts_iff_onesSum :
    (ChecksumAccepts memory frame (headerSize memory frame) ↔
      onesSum (headerBytes memory frame) = 0xffff) ↔
      ¬ (frameSum memory frame = 0 ∧ onesSum (headerBytes memory frame) = 0xffff) := by
  have bound := (ntohs (frameSum memory frame)).toNat_lt
  have zero : frameSum memory frame = 0 ↔ (ntohs (frameSum memory frame)).toNat = 0 := by
    constructor
    · intro isZero
      rw [isZero]
      rfl
    · intro isZero
      exact swap16_injective (UInt16.toNat_inj.mp isZero)
  rw [checksumAccepts_iff fixedHeader wholeHeader,
    onesSum_headerBytes_iff fixedHeader wholeHeader, zero]
  generalize (ntohs (frameSum memory frame)).toNat = received at bound ⊢
  generalize wordSum (put (headerBytes memory frame) 10 (bytes16 0)) = rest
  omega

end Header

theorem datagram_checksumAccepts_iff :
    (ChecksumAccepts noMemory datagram (headerSize noMemory datagram) ↔
      onesSum (headerBytes noMemory datagram) = 0xffff) ↔
      ¬ (frameSum noMemory datagram = 0 ∧
        onesSum (headerBytes noMemory datagram) = 0xffff) :=
  checksumAccepts_iff_onesSum (by decide +kernel) (by decide +kernel)

/-- The datagram with an `ip_id` that leaves a sum of all ones without a checksum. -/
def zeroSumDatagram : Bytes :=
  [2, 0, 0, 0, 0, 1, 2, 0, 0, 0, 0, 2, 8, 0,
    0x45, 0, 0, 20, 0x65, 0xe9, 0, 0, 64, 0xfd, 0, 0, 10, 0, 0, 2, 10, 0, 0, 3]

/-- It is valid, and it is dropped. -/
theorem zeroSumDatagram_dropped :
    sizeofIpHdr ≤ headerSize noMemory zeroSumDatagram ∧
      sizeofEthernetHdr + headerSize noMemory zeroSumDatagram ≤ zeroSumDatagram.length ∧
      onesSum (headerBytes noMemory zeroSumDatagram) = 0xffff ∧
      ¬ ChecksumAccepts noMemory zeroSumDatagram (headerSize noMemory zeroSumDatagram) ∧
      (finalState (receiveFrame noMemory 1 zeroSumDatagram eth0.name)
        smallNetwork).trace = smallNetwork.trace := by
  decide +kernel

end Cmput313.Router
