import Cmput313.Router.IcmpError

/-!
# Memory that leaves with an error

Two runs of `send_icmp_msg` on the same frame in the same state, with other memory
behind the frame and in the block from `malloc`.  What they emit differs in the
options, which nothing is written to, and in the part of the quote that lies behind
a frame of fewer than 42 bytes, and in nothing else.
-/

set_option autoImplicit false

namespace Cmput313.Router

open Cmput313.Bytes Cmput313.Program

/-- The runs find the same bytes where no byte was written or received. -/
structure SameUnwritten (hl length : Nat) (left right : Memory) : Prop where
  options : ∀ index, sizeofEthernetHdr + sizeofIpHdr ≤ index →
    index < sizeofEthernetHdr + hl * 4 → left.fresh index = right.fresh index
  quote : ∀ index, length ≤ index → index < sizeofEthernetHdr + icmpDataSize →
    left.beyond index = right.beyond index

/-! ## Fields of a whole header -/

section SameFrame

variable {frame : Bytes} (long : 34 ≤ frame.length) (left right : Memory)

include long

theorem frameSrc_eq : frameSrc left frame = frameSrc right frame := by
  rw [frameSrc, frameSrc, peek32, peek32, ipSrc]
  congr 1 <;> rw [peek_of_lt _ _ (by omega), peek_of_lt _ _ (by omega)]

theorem frameDst_eq : frameDst left frame = frameDst right frame := by
  rw [frameDst, frameDst, peek32, peek32, ipDst]
  congr 1 <;> rw [peek_of_lt _ _ (by omega), peek_of_lt _ _ (by omega)]

theorem vhl_eq : peek left.beyond frame ipVhl = peek right.beyond frame ipVhl := by
  rw [ipVhl, peek_of_lt _ _ (by omega), peek_of_lt _ _ (by omega)]

end SameFrame

/-! ## What tells two errors apart -/

theorem errorOptions_eq_iff {hl : Nat} (fixed : 5 ≤ hl) (left right : Memory) :
    errorOptions left hl = errorOptions right hl ↔
      ∀ index, sizeofEthernetHdr + sizeofIpHdr ≤ index →
        index < sizeofEthernetHdr + hl * 4 → left.fresh index = right.fresh index := by
  have ends : sizeofEthernetHdr + sizeofIpHdr + (hl * 4 - sizeofIpHdr) =
      sizeofEthernetHdr + hl * 4 := by
    rw [sizeofEthernetHdr, sizeofIpHdr]
    omega
  simp only [errorOptions, List.map_inj_left, List.mem_range'_1, ends, and_imp]

theorem quote_eq_iff (frame : Bytes) (left right : Memory) :
    read left.beyond frame sizeofEthernetHdr icmpDataSize =
        read right.beyond frame sizeofEthernetHdr icmpDataSize ↔
      ∀ index, sizeofEthernetHdr ≤ index → frame.length ≤ index →
        index < sizeofEthernetHdr + icmpDataSize → left.beyond index = right.beyond index := by
  simp only [Cmput313.Bytes.read, List.map_inj_left, List.mem_range]
  have outside : ∀ (memory : Memory) (index : Nat), frame.length ≤ index →
      peek memory.beyond frame index = memory.beyond index := by
    intro memory index behind
    simp [peek, behind]
  constructor
  · intro same index start behind inside
    have byte := same (index - sizeofEthernetHdr) (by omega)
    rw [Nat.add_sub_cancel' start, outside left index behind, outside right index behind] at byte
    exact byte
  · intro same index inside
    by_cases there : sizeofEthernetHdr + index < frame.length
    · rw [peek_of_lt _ _ there, peek_of_lt _ _ there]
    · rw [outside left _ (by omega), outside right _ (by omega)]
      exact same _ (by omega) (by omega) (by omega)

theorem errorMessage_injective {type code : UInt8} {quoted other : Bytes}
    (whole : quoted.length = icmpDataSize) (otherWhole : other.length = icmpDataSize)
    (same : errorMessage type code quoted = errorMessage type code other) : quoted = other := by
  have heads : ∀ {text : Bytes}, text.length = icmpDataSize →
      (errorMessage type code text).drop 8 = text := fun _ => rfl
  rw [← heads whole, same, heads otherWhole]

section Packets

variable {hl : Nat} (fixed : 5 ≤ hl) (type code : UInt8) (src dst : UInt32)
  {quoted other : Bytes} (whole : quoted.length = icmpDataSize)

include fixed whole

theorem errorEthernet_append_drop (memory : Memory) :
    errorEthernet ++ (icmpErrorPacket memory hl type code src dst quoted).drop
        sizeofEthernetHdr =
      icmpErrorPacket memory hl type code src dst quoted := by
  rw [icmpErrorPacket_eq memory fixed type code src dst whole, List.append_assoc,
    ← errorEthernet_length, List.drop_left]

theorem icmpErrorPacket_eq_iff (otherWhole : other.length = icmpDataSize)
    (left right : Memory) :
    icmpErrorPacket left hl type code src dst quoted =
        icmpErrorPacket right hl type code src dst other ↔
      errorOptions left hl = errorOptions right hl ∧ quoted = other := by
  rw [icmpErrorPacket_eq left fixed type code src dst whole,
    icmpErrorPacket_eq right fixed type code src dst otherWhole]
  constructor
  · intro same
    have lengths : (errorEthernet ++ errorHeader left hl src dst).length =
        (errorEthernet ++ errorHeader right hl src dst).length := by
      rw [List.length_append, List.length_append, errorHeader_length left fixed,
        errorHeader_length right fixed]
    obtain ⟨front, message⟩ := List.append_inj same lengths
    have header := List.append_cancel_left front
    rw [errorHeader, errorHeader] at header
    have fixedLengths := fun left right : UInt16 =>
      (errorFixedHeader_length hl left src dst).trans
        (errorFixedHeader_length hl right src dst).symm
    exact ⟨(List.append_inj header (fixedLengths _ _)).2,
      errorMessage_injective whole otherWhole message⟩
  · rintro ⟨options, rfl⟩
    rw [errorHeader, errorHeader, options]

end Packets

theorem drop_eq_of_outgoingFrame_eq {entries : ArpTable} {gw : UInt32} {left right : Bytes}
    {interface : SrIf} (leftLong : 34 ≤ left.length) (rightLong : 34 ≤ right.length)
    (same : outgoingFrame entries gw left interface = outgoingFrame entries gw right interface) :
    left.drop sizeofEthernetHdr = right.drop sizeofEthernetHdr := by
  rw [← drop_outgoingFrame entries gw leftLong interface, same,
    drop_outgoingFrame entries gw rightLong interface]

/-! ## The frame that is emitted -/

section Exact

variable {left right : Memory} {packet : Buf}
  (wellFormed : WellFormedDatagram left packet.bytes)

include wellFormed

theorem errorPacketFor_eq_iff (type code : UInt8) (interface : SrIf) :
    errorPacketFor left packet.bytes type code interface =
        errorPacketFor right packet.bytes type code interface ↔
      SameUnwritten (headerLength (peek left.beyond packet.bytes ipVhl)) packet.bytes.length
        left right := by
  have long := wellFormed.long
  have fixed := wellFormed.fixed
  rw [errorPacketFor, errorPacketFor, ← vhl_eq long left right, ← frameSrc_eq long left right,
    ← frameDst_eq long left right,
    icmpErrorPacket_eq_iff fixed _ _ _ _ (read_length ..) (read_length ..),
    errorOptions_eq_iff fixed, quote_eq_iff]
  have behind : ∀ index, packet.bytes.length ≤ index → sizeofEthernetHdr ≤ index := by
    intro index further
    rw [sizeofEthernetHdr]
    omega
  constructor
  · rintro ⟨options, quote⟩
    exact ⟨options, fun index further inside => quote index (behind index further) further inside⟩
  · rintro ⟨options, quote⟩
    exact ⟨options, fun index _ further inside => quote index further inside⟩

theorem outgoingFrame_errorPacketFor_eq_iff (type code : UInt8) (entries : ArpTable)
    (gw : UInt32) (interface : SrIf) :
    outgoingFrame entries gw (errorPacketFor left packet.bytes type code interface) interface =
        outgoingFrame entries gw (errorPacketFor right packet.bytes type code interface)
          interface ↔
      errorPacketFor left packet.bytes type code interface =
        errorPacketFor right packet.bytes type code interface := by
  have fixed := wellFormed.fixed
  have rightFixed := fixed
  rw [vhl_eq wellFormed.long left right] at rightFixed
  constructor
  · intro same
    have rest := drop_eq_of_outgoingFrame_eq (errorPacketFor_long _ _)
      (errorPacketFor_long _ _) same
    have leftWhole := errorEthernet_append_drop fixed type code
      (if code = icmpDestUnreachablePort then frameDst left packet.bytes else interface.ip)
      (frameSrc left packet.bytes) (read_length left.beyond packet.bytes 14 28) left
    have rightWhole := errorEthernet_append_drop rightFixed type code
      (if code = icmpDestUnreachablePort then frameDst right packet.bytes else interface.ip)
      (frameSrc right packet.bytes) (read_length right.beyond packet.bytes 14 28) right
    exact leftWhole.symm.trans ((congrArg (errorEthernet ++ ·) rest).trans rightWhole)
  · intro same
    rw [same]

/-- Two runs emit the same error exactly where nothing is emitted, or the option bytes
of the two blocks and what lies behind a short frame are the same. -/
theorem error_determined_iff {type code : UInt8}
    (error : type = icmpTypeTimeExceeded ∨ type = icmpTypeDestUnreachable)
    (sr : SrInstance) (depth : Nat) :
    emitted (sendIcmpMsg left (handleArpreq left depth) packet type code) sr =
        emitted (sendIcmpMsg right (handleArpreq right depth) packet type code) sr ↔
      outgoingRoute sr (frameSrc left packet.bytes) = none ∨
        SameUnwritten (headerLength (peek left.beyond packet.bytes ipVhl))
          packet.bytes.length left right := by
  rw [emitted_sendIcmpMsg_error error, emitted_sendIcmpMsg_error error,
    ← frameSrc_eq wellFormed.long left right]
  cases routed : outgoingRoute sr (frameSrc left packet.bytes) with
  | none => simp
  | some out =>
      simp only [Option.map_some, Option.some.injEq, reduceCtorEq, false_or]
      rw [outgoingFrame_errorPacketFor_eq_iff wellFormed, errorPacketFor_eq_iff wellFormed]

end Exact

theorem alertQuery_determined_iff :
    emitted (sendIcmpMsg noMemory (handleArpreq noMemory 1) ⟨.frame, alertQuery⟩
          icmpTypeDestUnreachable icmpDestUnreachablePort) smallNetwork =
        emitted (sendIcmpMsg usedMemory (handleArpreq usedMemory 1) ⟨.frame, alertQuery⟩
          icmpTypeDestUnreachable icmpDestUnreachablePort) smallNetwork ↔
      outgoingRoute smallNetwork (frameSrc noMemory alertQuery) = none ∨
        SameUnwritten (headerLength (peek noMemory.beyond alertQuery ipVhl))
          alertQuery.length noMemory usedMemory :=
  @error_determined_iff noMemory usedMemory ⟨.frame, alertQuery⟩
    ⟨by decide, by decide, by decide⟩ _ _ (Or.inr rfl) smallNetwork 1

/-- The four bytes of the router alert come back as whatever the block held. -/
theorem alertQuery_leaks :
    WellFormedDatagram noMemory alertQuery ∧ usedMemory.beyond = noMemory.beyond ∧
      emitted (sendIcmpMsg noMemory (handleArpreq noMemory 1) ⟨.frame, alertQuery⟩
          icmpTypeDestUnreachable icmpDestUnreachablePort) smallNetwork ≠
        emitted (sendIcmpMsg usedMemory (handleArpreq usedMemory 1) ⟨.frame, alertQuery⟩
          icmpTypeDestUnreachable icmpDestUnreachablePort) smallNetwork := by
  refine ⟨⟨by decide, by decide, by decide⟩, rfl, ?_⟩
  decide +kernel

end Cmput313.Router
