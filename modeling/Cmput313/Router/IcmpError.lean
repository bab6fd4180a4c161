import Cmput313.Lib.Fields
import Cmput313.Router.Emitted

/-!
# The errors of `send_icmp_msg`

The fields of a time-exceeded or destination-unreachable packet are written one by
one into a fresh block.  Put together they are an Ethernet header, an IP header with
the options as `malloc` left them, and an ICMP message that quotes 28 bytes.
-/

set_option autoImplicit false

namespace Cmput313.Router

open Cmput313.Bytes Cmput313.OnesComplement Cmput313.Program

variable (memory : Memory)

/-! ## The packet as a whole -/

def errorEthernet : Bytes := List.replicate 12 0 ++ bytes16 (htons ethertypeIp)

def errorFixedHeader (hl : Nat) (sum : UInt16) (src dst : UInt32) : Bytes :=
  [UInt8.ofNat (64 + hl), 0] ++
    bytes16 (htons (UInt16.ofNat (hl * 4 + sizeofIcmpT3Hdr))) ++
    bytes16 (htons 0) ++ bytes16 (htons ipDf) ++ [255, ipProtocolIcmp] ++
    bytes16 sum ++ bytes32 src ++ bytes32 dst

/-- Nothing is written behind them up to the ICMP header. -/
def errorOptions (hl : Nat) : Bytes :=
  (List.range' (sizeofEthernetHdr + sizeofIpHdr) (hl * 4 - sizeofIpHdr)).map memory.fresh

def errorHeader (hl : Nat) (src dst : UInt32) : Bytes :=
  errorFixedHeader hl
      (cksum (errorFixedHeader hl 0 src dst ++ errorOptions memory hl)) src dst ++
    errorOptions memory hl

/-- The ICMP message with a checksum. -/
def errorMessageWith (type code : UInt8) (sum : UInt16) (quoted : Bytes) : Bytes :=
  [type, code] ++ bytes16 sum ++ bytes16 0 ++ bytes16 0 ++ quoted

def errorMessage (type code : UInt8) (quoted : Bytes) : Bytes :=
  errorMessageWith type code (cksum (errorMessageWith type code 0 quoted)) quoted

@[simp] theorem errorEthernet_length : errorEthernet.length = sizeofEthernetHdr := rfl

@[simp] theorem errorFixedHeader_length (hl : Nat) (sum : UInt16) (src dst : UInt32) :
    (errorFixedHeader hl sum src dst).length = sizeofIpHdr := rfl

@[simp] theorem errorOptions_length (hl : Nat) :
    (errorOptions memory hl).length = hl * 4 - sizeofIpHdr := by
  simp [errorOptions]

theorem errorHeader_length {hl : Nat} (fixed : 5 ≤ hl) (src dst : UInt32) :
    (errorHeader memory hl src dst).length = hl * 4 := by
  rw [errorHeader, List.length_append, errorFixedHeader_length, errorOptions_length,
    sizeofIpHdr]
  omega

theorem errorMessageWith_length (type code : UInt8) (sum : UInt16) {quoted : Bytes}
    (whole : quoted.length = icmpDataSize) :
    (errorMessageWith type code sum quoted).length = sizeofIcmpT3Hdr := by
  simp [errorMessageWith, whole, icmpDataSize, sizeofIcmpT3Hdr]

/-! ## The writes -/

/-- The fields in front of the ICMP header, the options last. -/
def headerSizes (hl : Nat) : List Nat :=
  [6, 6, 2, 1, 1, 2, 2, 2, 1, 1, 2, 4, 4, hl * 4 - sizeofIpHdr]

/-- What is written to them, in the order of the source, up to the cleared checksum. -/
def headerWrites (hl : Nat) (src dst : UInt32) : List (Nat × Bytes) :=
  [(1, List.replicate 6 0), (0, List.replicate 6 0), (2, bytes16 (htons ethertypeIp)),
    (3, [UInt8.ofNat (64 + hl)]), (4, [0]),
    (5, bytes16 (htons (UInt16.ofNat (hl * 4 + sizeofIcmpT3Hdr)))),
    (6, bytes16 (htons 0)), (7, bytes16 (htons ipDf)), (8, [255]), (9, [ipProtocolIcmp]),
    (11, bytes32 src), (12, bytes32 dst), (10, bytes16 0)]

/-- The fields of the ICMP header and its data. -/
def messageSizes : List Nat := [1, 1, 2, 2, 2, icmpDataSize]

def messageWrites (type code : UInt8) (quoted : Bytes) : List (Nat × Bytes) :=
  [(0, [type]), (1, [code]), (3, bytes16 0), (4, bytes16 0), (5, quoted), (2, bytes16 0)]

theorem fieldWrites_header (hl : Nat) (src dst : UInt32) :
    fieldWrites (headerSizes hl) (headerWrites hl src dst) =
      [(etherShost, List.replicate 6 0), (etherDhost, List.replicate 6 0),
        (etherType, bytes16 (htons ethertypeIp)), (ipVhl, [UInt8.ofNat (64 + hl)]),
        (ipTos, [0]), (ipLen, bytes16 (htons (UInt16.ofNat (hl * 4 + sizeofIcmpT3Hdr)))),
        (ipId, bytes16 (htons 0)), (ipOff, bytes16 (htons ipDf)), (ipTtl, [255]),
        (ipP, [ipProtocolIcmp]), (ipSrc, bytes32 src), (ipDst, bytes32 dst),
        (ipSum, bytes16 0)] := rfl

theorem fieldWrites_message (icmpHdr : Nat) (type code : UInt8) (quoted : Bytes) :
    (fieldWrites messageSizes (messageWrites type code quoted)).map
        (fun write => (icmpHdr + write.1, write.2)) =
      [(icmpHdr, [type]), (icmpHdr + 1, [code]), (icmpHdr + 4, bytes16 0),
        (icmpHdr + 6, bytes16 0), (icmpHdr + 8, quoted), (icmpHdr + 2, bytes16 0)] := rfl

theorem headerSizes_sum {hl : Nat} (fixed : 5 ≤ hl) :
    (headerSizes hl).sum = sizeofEthernetHdr + hl * 4 := by
  simp only [headerSizes, List.sum_cons, List.sum_nil, sizeofIpHdr, sizeofEthernetHdr]
  omega

theorem putAll_headerWrites {hl : Nat} (fixed : 5 ≤ hl) (src dst : UInt32) (behind : Bytes) :
    let block := (List.range (sizeofEthernetHdr + hl * 4)).map memory.fresh ++ behind
    let written := putAll (fieldWrites (headerSizes hl) (headerWrites hl src dst)) block
    put written ipSum (bytes16 (cksum (read memory.beyond written ipVhl (hl * 4)))) =
      (errorEthernet ++ errorHeader memory hl src dst) ++ behind := by
  intro block written
  have laid := sizes_rowOf memory.fresh 0 (headerSizes hl)
  have row : (List.range (sizeofEthernetHdr + hl * 4)).map memory.fresh =
      (rowOf memory.fresh 0 (headerSizes hl)).flatten := by
    rw [flatten_rowOf, headerSizes_sum fixed, List.range_eq_range']
  have sized : ∀ write ∈ headerWrites hl src dst,
      (headerSizes hl)[write.1]? = some write.2.length := by
    simp [headerWrites, headerSizes]
  have fits : Fit (fieldWrites (headerSizes hl) (headerWrites hl src dst))
      (rowOf memory.fresh 0 (headerSizes hl)).flatten.length := by
    rw [List.length_flatten, laid]
    exact fit_fieldWrites sized
  have whole : written = errorEthernet ++
      ((errorFixedHeader hl 0 src dst ++ errorOptions memory hl) ++ behind) := by
    show putAll _ (_ ++ behind) = _
    rw [row, putAll_append_left behind fits, putAll_flatten sized laid]
    simp [setAll, headerWrites, rowOf, headerSizes, errorEthernet, errorFixedHeader,
      errorOptions, sizeofEthernetHdr, sizeofIpHdr]
  have header := read_append_middle memory.beyond errorEthernet
    (errorFixedHeader hl 0 src dst ++ errorOptions memory hl) behind
  rw [List.length_append, errorFixedHeader_length, errorOptions_length, errorEthernet_length,
    show sizeofIpHdr + (hl * 4 - sizeofIpHdr) = hl * 4 by rw [sizeofIpHdr]; omega] at header
  rw [whole, show ipVhl = sizeofEthernetHdr from rfl, header, errorHeader]
  generalize cksum (errorFixedHeader hl 0 src dst ++ errorOptions memory hl) = sum
  rfl

theorem putAll_messageWrites (front : Bytes) (type code : UInt8) {quoted : Bytes}
    (whole : quoted.length = icmpDataSize) (start : Nat) :
    let block := front ++ (List.range' start sizeofIcmpT3Hdr).map memory.fresh
    let written := putAll ((fieldWrites messageSizes (messageWrites type code quoted)).map
      fun write => (front.length + write.1, write.2)) block
    put written (front.length + 2)
        (bytes16 (cksum (read memory.beyond written front.length sizeofIcmpT3Hdr))) =
      front ++ errorMessage type code quoted := by
  intro block written
  have sized : ∀ write ∈ messageWrites type code quoted,
      messageSizes[write.1]? = some write.2.length := by
    simp [messageWrites, messageSizes, whole]
  have content : written = front ++ errorMessageWith type code 0 quoted := by
    show putAll _ (front ++ _) = _
    rw [putAll_append_right,
      show sizeofIcmpT3Hdr = messageSizes.sum from rfl, ← flatten_rowOf,
      putAll_flatten sized (sizes_rowOf ..)]
    simp [setAll, messageWrites, rowOf, messageSizes, errorMessageWith]
  have message := read_append_middle memory.beyond front
    (errorMessageWith type code 0 quoted) []
  rw [List.append_nil, errorMessageWith_length type code 0 whole] at message
  rw [content, message, put_append_right, errorMessage]
  rfl

/-- The packet is its three parts; the options are the only bytes from `malloc`. -/
theorem icmpErrorPacket_eq {hl : Nat} (fixed : 5 ≤ hl) (type code : UInt8) (src dst : UInt32)
    {quoted : Bytes} (whole : quoted.length = icmpDataSize) :
    icmpErrorPacket memory hl type code src dst quoted =
      (errorEthernet ++ errorHeader memory hl src dst) ++ errorMessage type code quoted := by
  have block : (List.range (sizeofEthernetHdr + hl * 4 + sizeofIcmpT3Hdr)).map memory.fresh =
      (List.range (sizeofEthernetHdr + hl * 4)).map memory.fresh ++
        (List.range' (sizeofEthernetHdr + hl * 4) sizeofIcmpT3Hdr).map memory.fresh := by
    have joined := @List.range'_append_1 0 (sizeofEthernetHdr + hl * 4) sizeofIcmpT3Hdr
    rw [Nat.zero_add] at joined
    rw [← List.map_append, List.range_eq_range', List.range_eq_range', joined]
  have header := putAll_headerWrites memory fixed src dst
    ((List.range' (sizeofEthernetHdr + hl * 4) sizeofIcmpT3Hdr).map memory.fresh)
  rw [← block] at header
  have front : (errorEthernet ++ errorHeader memory hl src dst).length =
      sizeofEthernetHdr + hl * 4 := by
    rw [List.length_append, errorHeader_length memory fixed, errorEthernet_length]
  have message := putAll_messageWrites memory (errorEthernet ++ errorHeader memory hl src dst)
    type code whole (sizeofEthernetHdr + hl * 4)
  rw [← header, front, fieldWrites_header, fieldWrites_message] at message
  exact message

/-! ## What `send_icmp_msg` emits -/

def errorPacketFor (frame : Bytes) (type code : UInt8) (interface : SrIf) : Bytes :=
  icmpErrorPacket memory (headerLength (peek memory.beyond frame ipVhl)) type code
    (if code = icmpDestUnreachablePort then frameDst memory frame else interface.ip)
    (frameSrc memory frame) (read memory.beyond frame sizeofEthernetHdr icmpDataSize)

section Emitted

variable {memory} {handle : Nat → Sr Unit} {sr : SrInstance} {packet : Buf} {type code : UInt8}

theorem errorPacketFor_long (frame : Bytes) (interface : SrIf) :
    34 ≤ (errorPacketFor memory frame type code interface).length :=
  Nat.le_trans (by decide : 34 ≤ 50) (icmpErrorPacket_long memory _ _ _ _ _ _)

theorem sendIcmpError_leadsTo (rtEntry : SrRt) (interface : SrIf) :
    LeadsTo (sendIcmpError memory handle packet type code rtEntry (some interface))
      (sendOrQueue handle rtEntry.gw
        ⟨.newPacket, errorPacketFor memory packet.bytes type code interface⟩
        (some interface)) := by
  unfold sendIcmpError errorSource errorPacketFor
  refine leadsTo_load8 ?_
  by_cases port : code = icmpDestUnreachablePort
  · rw [if_pos port, if_pos port]
    exact leadsTo_load32 (leadsTo_load32 (leadsTo_load (LeadsTo.refl _)))
  · rw [if_neg port, if_neg port]
    exact leadsTo_value (fun _ => rfl) (leadsTo_load32 (leadsTo_load (LeadsTo.refl _)))

theorem sendIcmpError_none (rtEntry : SrRt) :
    (finalState (sendIcmpError memory handle packet type code rtEntry none) sr).trace =
      sr.trace := by
  have ends : Ends (sendIcmpError memory handle packet type code rtEntry none) sr
      (fun _ next => next.trace = sr.trace) (fun _ next => next.trace = sr.trace) := by
    by_cases port : code = icmpDestUnreachablePort
    · simp only [sendIcmpError, errorSource, if_pos port, ends_bind, ends_load8, ends_load32,
        ends_load, touched_eq_accessed, accessed_accessed]
      exact ends_sendOrQueue_none (sr.accessed _) handle rtEntry.gw _
    · simp only [sendIcmpError, errorSource, if_neg port, ends_bind, ends_load8,
        ends_dereference_none]
      rfl
  exact ends.finalState

theorem emitted_sendIcmpMsg_error
    (error : type = icmpTypeTimeExceeded ∨ type = icmpTypeDestUnreachable) (depth : Nat) :
    emitted (sendIcmpMsg memory (handleArpreq memory depth) packet type code) sr =
      (outgoingRoute sr (frameSrc memory packet.bytes)).map fun out =>
        outgoingFrame sr.entries out.1.gw
          (errorPacketFor memory packet.bytes type code out.2) out.2 := by
  have notEcho : ¬ type = icmpTypeEchoReply := by
    rcases error with rfl | rfl
    · decide
    · decide
  obtain ⟨noted, run⟩ := @sendIcmpMsg_continues memory (handleArpreq memory depth) sr packet
    type code
  rw [outgoingRoute]
  cases routed : longestPrefixMatching sr.routingTable (frameSrc memory packet.bytes) with
  | none =>
      rw [routed] at run
      exact emitted_eq_none noted (congrArg SrInstance.trace (by rw [finalState, run]; rfl))
  | some rtEntry =>
      simp only [routed, if_neg notEcho, if_pos error] at run
      cases found : srGetInterface sr.ifList rtEntry.interface with
      | none =>
          rw [found] at run
          simp only [found, Option.map_none]
          refine emitted_eq_none noted ?_
          rw [finalState, run, ← finalState]
          exact sendIcmpError_none rtEntry
      | some interface =>
          rw [found] at run
          simp only [found, Option.map_some]
          have long := @errorPacketFor_long memory type code packet.bytes interface
          obtain ⟨accesses, tail⟩ := @sendIcmpError_leadsTo memory (handleArpreq memory depth)
            packet type code rtEntry interface ((sr.record (.icmp packet.tag type code)).accessed
              [⟨packet.tag, 0, sizeofIpHdr⟩, ⟨packet.tag, ipSrc, 4⟩])
          exact @emitted_of_tail _ _ _ _ _ (noted.trans (noted_accessed _ accesses)) _
            ⟨.newPacket, errorPacketFor memory packet.bytes type code interface⟩ _ long
            (run.trans tail)

end Emitted

/-! ## The error is self-consistent -/

/-- A call of `send_icmp_msg` for an error; the port code goes with unreachability. -/
def IsError (type code : UInt8) : Prop :=
  (type = icmpTypeTimeExceeded ∧ code ≠ icmpDestUnreachablePort) ∨
    type = icmpTypeDestUnreachable

/-- A peer can take `buf` as the requested error about `frame`. -/
structure SelfConsistent (frame : Bytes) (type code : UInt8) (interface : SrIf)
    (buf : Bytes) : Prop where
  length : buf.length = sizeofEthernetHdr + frameIpLen memory buf
  header : ChecksumAccepts memory buf (headerSize memory buf)
  message : onesSum (read memory.beyond buf (sizeofEthernetHdr + headerSize memory buf)
    (frameIpLen memory buf - headerSize memory buf)) = 0xffff
  dst : frameDst memory buf = frameSrc memory frame
  src : frameSrc memory buf =
    if type = icmpTypeDestUnreachable ∧ code = icmpDestUnreachablePort then
      frameDst memory frame
    else interface.ip
  type : peek memory.beyond buf (sizeofEthernetHdr + headerSize memory buf) = type
  code : peek memory.beyond buf (sizeofEthernetHdr + headerSize memory buf + 1) = code

section Packet

variable {memory} {hl : Nat} (fixed : 5 ≤ hl) (small : hl ≤ 15) {type code : UInt8}
  {src dst : UInt32} {quoted : Bytes} (whole : quoted.length = icmpDataSize)

include fixed small whole

theorem headerSize_icmpErrorPacket :
    headerSize memory (icmpErrorPacket memory hl type code src dst quoted) = hl * 4 := by
  rw [icmpErrorPacket_eq memory fixed type code src dst whole, headerSize]
  show headerLength (UInt8.ofNat (64 + hl)) * 4 = hl * 4
  rw [headerLength, UInt8.toNat_ofNat']
  omega

theorem frameIpLen_icmpErrorPacket :
    frameIpLen memory (icmpErrorPacket memory hl type code src dst quoted) =
      hl * 4 + sizeofIcmpT3Hdr := by
  have stored := peek16_bytes16 memory.beyond
    (htons (UInt16.ofNat (hl * 4 + sizeofIcmpT3Hdr)))
  rw [icmpErrorPacket_eq memory fixed type code src dst whole, frameIpLen]
  change (ntohs (peek16 memory.beyond (bytes16 _) 0)).toNat = _
  rw [stored, ntohs, htons, swap16_swap16, UInt16.toNat_ofNat', sizeofIcmpT3Hdr]
  omega

omit small in
theorem read_message_icmpErrorPacket :
    read memory.beyond (icmpErrorPacket memory hl type code src dst quoted)
        (sizeofEthernetHdr + hl * 4) sizeofIcmpT3Hdr = errorMessage type code quoted := by
  have message := read_append_middle memory.beyond
    (errorEthernet ++ errorHeader memory hl src dst) (errorMessage type code quoted) []
  rw [List.append_nil, List.length_append, errorHeader_length memory fixed,
    errorEthernet_length, errorMessage, errorMessageWith_length type code _ whole] at message
  rw [icmpErrorPacket_eq memory fixed type code src dst whole]
  exact message

omit small in
theorem icmpErrorPacket_length :
    (icmpErrorPacket memory hl type code src dst quoted).length =
      sizeofEthernetHdr + (hl * 4 + sizeofIcmpT3Hdr) := by
  rw [icmpErrorPacket_eq memory fixed type code src dst whole, List.length_append,
    List.length_append, errorHeader_length memory fixed, errorEthernet_length, errorMessage,
    errorMessageWith_length type code _ whole, Nat.add_assoc]

theorem checksumAccepts_icmpErrorPacket :
    ChecksumAccepts memory (icmpErrorPacket memory hl type code src dst quoted)
      (headerSize memory (icmpErrorPacket memory hl type code src dst quoted)) := by
  rw [headerSize_icmpErrorPacket fixed small whole, ChecksumAccepts,
    icmpErrorPacket_eq memory fixed type code src dst whole, errorHeader]
  have cleared := read_append_middle memory.beyond errorEthernet
    (errorFixedHeader hl 0 src dst ++ errorOptions memory hl) (errorMessage type code quoted)
  rw [List.length_append, errorFixedHeader_length, errorOptions_length, errorEthernet_length,
    show sizeofIpHdr + (hl * 4 - sizeofIpHdr) = hl * 4 by rw [sizeofIpHdr]; omega] at cleared
  generalize stored : cksum (errorFixedHeader hl 0 src dst ++ errorOptions memory hl) = sum
  have field : peek16 memory.beyond ((errorEthernet ++ (errorFixedHeader hl sum src dst ++
      errorOptions memory hl)) ++ errorMessage type code quoted) ipSum = sum :=
    peek16_bytes16 memory.beyond sum
  have zeroed : put ((errorEthernet ++ (errorFixedHeader hl sum src dst ++
      errorOptions memory hl)) ++ errorMessage type code quoted) ipSum (bytes16 0) =
      errorEthernet ++ ((errorFixedHeader hl 0 src dst ++ errorOptions memory hl) ++
        errorMessage type code quoted) := rfl
  rw [field, zeroed, cleared, stored]

omit fixed small in
theorem onesSum_errorMessage : onesSum (errorMessage type code quoted) = 0xffff := by
  have length := errorMessageWith_length type code 0 whole
  have cleared : put (errorMessageWith type code 0 quoted) 2 (bytes16 0) =
      errorMessageWith type code 0 quoted := rfl
  have sum := (@onesSum_put_cksum (errorMessageWith type code 0 quoted) 2
    (by rw [length]; decide) (by decide) (by rw [length]; decide)).1
  rw [cleared] at sum
  exact sum

end Packet

theorem headerLength_le (vhl : UInt8) : headerLength vhl ≤ 15 :=
  Nat.le_of_lt_succ (Nat.mod_lt _ (by decide))

theorem selfConsistent_errorPacketFor {memory : Memory} {frame : Bytes} {type code : UInt8}
    (fixed : 5 ≤ headerLength (peek memory.beyond frame ipVhl)) (interface : SrIf)
    (error : IsError type code) :
    SelfConsistent memory frame type code interface
      (errorPacketFor memory frame type code interface) := by
  have small := headerLength_le (peek memory.beyond frame ipVhl)
  have quote := read_length memory.beyond frame sizeofEthernetHdr icmpDataSize
  rw [errorPacketFor]
  generalize headerLength (peek memory.beyond frame ipVhl) = hl at fixed small ⊢
  generalize read memory.beyond frame sizeofEthernetHdr icmpDataSize = quoted at quote ⊢
  have header := @headerSize_icmpErrorPacket memory _ fixed small
  have ipLen := @frameIpLen_icmpErrorPacket memory _ fixed small
  have message := @read_message_icmpErrorPacket memory _ fixed
  constructor
  · rw [ipLen quote, icmpErrorPacket_length fixed quote]
  · exact checksumAccepts_icmpErrorPacket fixed small quote
  · rw [ipLen quote, header quote, Nat.add_sub_cancel_left, message quote]
    exact onesSum_errorMessage quote
  · rw [icmpErrorPacket_eq memory fixed _ _ _ _ quote]
    exact peek32_bytes32 memory.beyond _
  · rw [icmpErrorPacket_eq memory fixed _ _ _ _ quote]
    refine (peek32_bytes32 memory.beyond _).trans ?_
    rcases error with ⟨rfl, notPort⟩ | rfl
    · rw [if_neg notPort, if_neg fun both => notPort both.2]
    · simp
  · have first := @peek_read memory.beyond (icmpErrorPacket memory hl type code
      (if code = icmpDestUnreachablePort then frameDst memory frame else interface.ip)
      (frameSrc memory frame) quoted) (sizeofEthernetHdr + hl * 4) sizeofIcmpT3Hdr 0 (by decide)
    rw [message quote] at first
    rw [header quote]
    exact first.symm
  · have second := @peek_read memory.beyond (icmpErrorPacket memory hl type code
      (if code = icmpDestUnreachablePort then frameDst memory frame else interface.ip)
      (frameSrc memory frame) quoted) (sizeofEthernetHdr + hl * 4) sizeofIcmpT3Hdr 1 (by decide)
    rw [message quote] at second
    rw [header quote]
    exact second.symm

theorem SelfConsistent.of_sameDatagram {memory : Memory} {frame left right : Bytes}
    {type code : UInt8} {interface : SrIf}
    (consistent : SelfConsistent memory frame type code interface right)
    (fixedHeader : sizeofIpHdr ≤ headerSize memory right)
    (wholeHeader : sizeofEthernetHdr + headerSize memory right ≤ right.length)
    (length : left.length = right.length) (same : SameDatagram memory left right) :
    SelfConsistent memory frame type code interface left := by
  have size := same.headerSize
  refine ⟨?_, ?_, ?_, ?_, ?_, ?_, ?_⟩
  · rw [length, same.frameIpLen, consistent.length]
  · refine (same.checksumAccepts length ?_ ?_).mpr consistent.header
    · rw [size]
      exact fixedHeader
    · rw [size, length]
      exact wholeHeader
  · rw [size, same.frameIpLen, same.read (Nat.le_add_right _ _)]
    exact consistent.message
  · exact (same.peek32 (by decide)).trans consistent.dst
  · exact (same.peek32 (by decide)).trans consistent.src
  · rw [size, same _ (Nat.le_add_right _ _), consistent.type]
  · rw [size, same _ (by omega), consistent.code]

theorem selfConsistent_outgoingFrame {memory : Memory} {frame : Bytes} {type code : UInt8}
    (fixed : 5 ≤ headerLength (peek memory.beyond frame ipVhl)) (interface : SrIf)
    (error : IsError type code) (entries : ArpTable) (gw : UInt32) :
    SelfConsistent memory frame type code interface
      (outgoingFrame entries gw (errorPacketFor memory frame type code interface)
        interface) := by
  have small := headerLength_le (peek memory.beyond frame ipVhl)
  have quote := read_length memory.beyond frame sizeofEthernetHdr icmpDataSize
  have size : headerSize memory (errorPacketFor memory frame type code interface) =
      headerLength (peek memory.beyond frame ipVhl) * 4 :=
    headerSize_icmpErrorPacket fixed small quote
  obtain ⟨length, same, -⟩ := @sameDatagram_outgoingFrame memory entries gw
    (errorPacketFor memory frame type code interface) (errorPacketFor_long _ _) interface
  refine (selfConsistent_errorPacketFor fixed interface error).of_sameDatagram ?_ ?_ length same
  · rw [size, sizeofIpHdr]
    omega
  · rw [size, errorPacketFor, icmpErrorPacket_length fixed quote]
    omega

/-- Whatever the allocated memory held, an error about a frame whose sender can be
reached is sent or queued, and is self-consistent. -/
theorem icmpError_selfConsistent (sr : SrInstance) (depth : Nat) {packet : Buf}
    {type code : UInt8} {rtEntry : SrRt} {interface : SrIf}
    (fixed : 5 ≤ headerLength (peek memory.beyond packet.bytes ipVhl))
    (routed : longestPrefixMatching sr.routingTable (frameSrc memory packet.bytes) =
      some rtEntry)
    (found : srGetInterface sr.ifList rtEntry.interface = some interface)
    (error : IsError type code) :
    ∃ buf, emitted (sendIcmpMsg memory (handleArpreq memory depth) packet type code) sr =
        some buf ∧
      SelfConsistent memory packet.bytes type code interface buf := by
  have reported : type = icmpTypeTimeExceeded ∨ type = icmpTypeDestUnreachable :=
    error.imp And.left id
  have out : outgoingRoute sr (frameSrc memory packet.bytes) = some (rtEntry, interface) := by
    simp only [outgoingRoute, routed, found, Option.map_some]
  refine ⟨outgoingFrame sr.entries rtEntry.gw
    (errorPacketFor memory packet.bytes type code interface) interface, ?_,
    selfConsistent_outgoingFrame fixed interface error sr.entries rtEntry.gw⟩
  rw [emitted_sendIcmpMsg_error reported, out]
  rfl

/-- A UDP datagram with a router alert, from 10.0.0.2 to the router. -/
def alertQuery : Bytes :=
  [2, 0, 0, 0, 0, 1, 2, 0, 0, 0, 0, 2, 8, 0,
    0x46, 0, 0, 32, 0, 0, 0, 0, 64, 17, 0xd1, 0xc6, 10, 0, 0, 2, 10, 0, 0, 1,
    0x94, 4, 0, 0, 0, 53, 0, 53, 0, 8, 0, 0]

def usedMemory : Memory where
  beyond := fun _ => 0
  fresh := fun _ => 0xaa

theorem alertQuery_selfConsistent :
    ∃ buf, emitted (sendIcmpMsg usedMemory (handleArpreq usedMemory 1) ⟨.frame, alertQuery⟩
          icmpTypeDestUnreachable icmpDestUnreachablePort) smallNetwork = some buf ∧
      SelfConsistent usedMemory alertQuery icmpTypeDestUnreachable icmpDestUnreachablePort
        eth0 buf :=
  @icmpError_selfConsistent usedMemory smallNetwork 1 ⟨.frame, alertQuery⟩ _ _ lanRoute eth0
    (by decide) (by decide) (by decide) (Or.inr rfl)

end Cmput313.Router
