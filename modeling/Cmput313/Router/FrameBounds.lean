import Cmput313.Router.Accesses
import Cmput313.Router.IpFrame

/-!
# Which bytes of a received IP frame are touched

`sr_handlepacket` asks for 34 bytes and then trusts `ip_hl` and `ip_len`, and an
ICMP error quotes 28 bytes of any datagram.  Every access to the frame is in the
log with its extent; here the log is compared with the length of the frame.
-/

set_option autoImplicit false

namespace Cmput313.Router

open Cmput313.Bytes Cmput313.Program

variable (memory : Memory)

/-! ## Accesses inside the frame -/

/-- Every byte of the access is one of the first `length`. -/
def Access.Within (access : Access) (length : Nat) : Prop :=
  ∀ index < access.size, access.offset + index < length

theorem within_iff {access : Access} {length : Nat} :
    access.Within length ↔
      access.size = 0 ∨ access.offset + access.size ≤ length := by
  constructor
  · intro within
    rcases Nat.eq_zero_or_pos access.size with empty | nonempty
    · exact Or.inl empty
    · have last := within (access.size - 1) (by omega)
      exact Or.inr (by omega)
  · intro fits index inside
    omega

def InFrame (length : Nat) (accesses : List Access) : Prop :=
  ∀ access ∈ accesses, access.tag = .frame → access.Within length

@[simp] theorem inFrame_nil (length : Nat) : InFrame length [] := by
  simp [InFrame]

@[simp] theorem inFrame_append {length : Nat} {first second : List Access} :
    InFrame length (first ++ second) ↔ InFrame length first ∧ InFrame length second :=
  List.forall_mem_append

theorem inFrame_cons {length : Nat} {access : Access} {rest : List Access} :
    InFrame length (access :: rest) ↔
      (access.tag = .frame → access.Within length) ∧ InFrame length rest :=
  List.forall_mem_cons

@[simp] theorem inFrame_frame_cons {length offset size : Nat} {rest : List Access} :
    InFrame length (⟨.frame, offset, size⟩ :: rest) ↔
      (size = 0 ∨ offset + size ≤ length) ∧ InFrame length rest := by
  rw [inFrame_cons, within_iff]
  simp

/-- Between the two states the frame was accessed inside its bytes only. -/
def StaysInFrame (length : Nat) (before after : SrInstance) : Prop :=
  ∃ accesses, after.accesses = before.accesses ++ accesses ∧ InFrame length accesses

theorem StaysInFrame.refl (length : Nat) (sr : SrInstance) : StaysInFrame length sr sr :=
  Touches.refl _ sr

theorem staysInFrame_iff_of_accessed {length : Nat} {before after : SrInstance}
    {accesses : List Access}
    (grows : (before.accessed accesses).accesses <+: after.accesses) :
    StaysInFrame length before after ↔
      InFrame length accesses ∧ StaysInFrame length (before.accessed accesses) after :=
  touches_iff_of_accessed grows

/-- The program accesses the frame inside its bytes only, however it ends. -/
def Confined {α : Type} (length : Nat) (program : Sr α) (sr : SrInstance) : Prop :=
  StaysInFrame length sr (finalState program sr)

theorem confined_iff_ends {α : Type} {length : Nat} {program : Sr α} {sr : SrInstance} :
    Confined length program sr ↔
      Ends program sr (fun _ => StaysInFrame length sr)
        (fun _ => StaysInFrame length sr) :=
  ends_iff_finalState.symm

theorem ends_staysInFrame_iff {α : Type} {length : Nat} {program : Sr α} {sr : SrInstance}
    {accesses : List Access}
    (keeps : KeepsMoves True (sr.accessed accesses) program fun _ => True) :
    Ends program (sr.accessed accesses) (fun _ => StaysInFrame length sr)
        (fun _ => StaysInFrame length sr) ↔
      InFrame length accesses ∧ Confined length program (sr.accessed accesses) := by
  have moves := keeps.finalState (Moves.refl _)
  rw [ends_iff_finalState]
  exact staysInFrame_iff_of_accessed moves.grows.accesses

/-! ## What happens to waiting packets and new ones

Retries and time-outs work on other buffers, and the tail only on the first
twelve bytes of the frame.
-/

section Quiet

variable {length : Nat} {start : SrInstance}

abbrev KeepsInFrame {α : Type} (length : Nat) (start : SrInstance) (program : Sr α)
    (good : α → Prop) : Prop :=
  Keeps (StaysInFrame length start) (fun _ _ => True) program good

theorem keeps_inFrame_modify {change : SrInstance → SrInstance}
    (same : ∀ sr, (change sr).accesses = sr.accesses) :
    KeepsInFrame length start (modify change) fun _ => True :=
  keeps_touches_modify same

theorem access_inFrame {tag : Tag} {offset size : Nat}
    (inside : tag = .frame → offset + size ≤ length) :
    (⟨tag, offset, size⟩ : Access).tag = .frame →
      (⟨tag, offset, size⟩ : Access).Within length :=
  fun framed => within_iff.mpr (Or.inr (inside framed))

theorem keeps_inFrame_touch {buf : Buf} {offset size : Nat}
    (inside : buf.tag = .frame → offset + size ≤ length) :
    KeepsInFrame length start (touch buf offset size) fun _ => True :=
  keeps_touches_touch (access_inFrame inside)

theorem keeps_inFrame_load {buf : Buf} {offset size : Nat}
    (inside : buf.tag = .frame → offset + size ≤ length) :
    KeepsInFrame length start (load memory buf offset size) fun _ => True :=
  keeps_touches_load memory (access_inFrame inside)

theorem keeps_inFrame_load8 {buf : Buf} {offset : Nat}
    (inside : buf.tag = .frame → offset + 1 ≤ length) :
    KeepsInFrame length start (load8 memory buf offset) fun _ => True :=
  keeps_touches_load8 memory (access_inFrame inside)

theorem keeps_inFrame_load16 {buf : Buf} {offset : Nat}
    (inside : buf.tag = .frame → offset + 2 ≤ length) :
    KeepsInFrame length start (load16 memory buf offset) fun _ => True :=
  keeps_touches_load16 memory (access_inFrame inside)

theorem keeps_inFrame_load32 {buf : Buf} {offset : Nat}
    (inside : buf.tag = .frame → offset + 4 ≤ length) :
    KeepsInFrame length start (load32 memory buf offset) fun _ => True :=
  keeps_touches_load32 memory (access_inFrame inside)

theorem keeps_inFrame_store {buf : Buf} {offset : Nat} {bytes : Bytes}
    (inside : buf.tag = .frame → offset + bytes.length ≤ length) :
    KeepsInFrame length start (store buf offset bytes) fun stored =>
      stored.tag = buf.tag :=
  keeps_touches_store (access_inFrame inside)

variable {memory} {handle : Nat → Sr Unit}
  (handleKeeps : ∀ id, KeepsInFrame length start (handle id) fun _ => True)

include handleKeeps

theorem keeps_inFrame_sendOrQueue (gw : UInt32) {packet : Buf} (interface : Option SrIf)
    (inside : packet.tag = .frame → 12 ≤ length) :
    KeepsInFrame length start (sendOrQueue handle gw packet interface) fun _ => True := by
  have address : ∀ (stored : Buf) (offset : Nat) (mac : Mac), stored.tag = packet.tag →
      offset ≤ 6 → stored.tag = .frame → offset + mac.toList.length ≤ length := by
    intro stored offset mac same low framed
    have long := inside (same.symm.trans framed)
    rw [Vector.length_toList]
    omega
  refine keeps_bind keeps_get fun sr _ => ?_
  cases srArpcacheLookup sr.entries gw with
  | some arpEntry =>
      refine keeps_bind (keeps_inFrame_store (address _ _ _ rfl (by decide)))
        fun stored same => ?_
      refine keeps_then (keeps_touches_dereference _) fun interface => ?_
      refine keeps_then ((keeps_inFrame_store
        (address _ _ _ same (by decide))).weaken fun _ _ => trivial) fun _ => ?_
      exact keeps_then (keeps_touches_srSendPacket _ _) fun _ => keeps_pure trivial
  | none =>
      refine keeps_then (keeps_touches_dereference _) fun interface => ?_
      exact keeps_then (keeps_touches_srArpcacheQueuereq _ _ _) handleKeeps

theorem keeps_inFrame_sendEchoReply {packet : Buf} (other : packet.tag ≠ .frame)
    (type code : UInt8) (rtEntry : SrRt) (interface : Option SrIf) :
    KeepsInFrame length start
      (sendEchoReply memory handle packet type code rtEntry interface)
      fun _ => True := by
  have stores : ∀ (buf : Buf) (offset : Nat) (bytes : Bytes), buf.tag ≠ .frame →
      KeepsInFrame length start (store buf offset bytes) fun stored =>
        stored.tag ≠ .frame := fun buf offset bytes outside =>
    (keeps_inFrame_store fun framed => absurd framed outside).weaken
      fun stored same => same ▸ outside
  refine keeps_bind (stores _ _ _ other) fun packet other => ?_
  refine keeps_bind (stores _ _ _ other) fun packet other => ?_
  refine keeps_then (keeps_inFrame_load32 memory fun framed => absurd framed other)
    fun temp => ?_
  refine keeps_then (keeps_inFrame_load32 memory fun framed => absurd framed other)
    fun src => ?_
  refine keeps_bind (stores _ _ _ other) fun packet other => ?_
  refine keeps_bind (stores _ _ _ other) fun packet other => ?_
  refine keeps_then (keeps_inFrame_load8 memory fun framed => absurd framed other)
    fun vhl => ?_
  refine keeps_bind (stores _ _ _ other) fun packet other => ?_
  refine keeps_bind (stores _ _ _ other) fun packet other => ?_
  refine keeps_bind (stores _ _ _ other) fun packet other => ?_
  refine keeps_then (keeps_inFrame_load16 memory fun framed => absurd framed other)
    fun len => ?_
  refine keeps_then (keeps_inFrame_load8 memory fun framed => absurd framed other)
    fun vhl => ?_
  refine keeps_then (keeps_inFrame_load memory fun framed => absurd framed other)
    fun data => ?_
  refine keeps_bind (stores _ _ _ other) fun packet other => ?_
  exact keeps_inFrame_sendOrQueue handleKeeps _ _ fun framed => absurd framed other

theorem keeps_inFrame_sendIcmpError {packet : Buf} (other : packet.tag ≠ .frame)
    (type code : UInt8) (rtEntry : SrRt) (interface : Option SrIf) :
    KeepsInFrame length start
      (sendIcmpError memory handle packet type code rtEntry interface)
      fun _ => True := by
  refine keeps_then (keeps_inFrame_load8 memory fun framed => absurd framed other)
    fun vhl => ?_
  have source : KeepsInFrame length start (errorSource memory packet code interface)
      fun _ => True :=
    keeps_ite (fun _ => keeps_inFrame_load32 memory fun framed => absurd framed other)
      fun _ => keeps_then (keeps_touches_dereference _) fun _ => keeps_pure trivial
  refine keeps_then source fun src => ?_
  refine keeps_then (keeps_inFrame_load32 memory fun framed => absurd framed other)
    fun dst => ?_
  refine keeps_then (keeps_inFrame_load memory fun framed => absurd framed other)
    fun quoted => ?_
  exact keeps_inFrame_sendOrQueue handleKeeps _ _ fun framed => by cases framed

theorem keeps_inFrame_sendIcmpMsg {packet : Buf} (other : packet.tag ≠ .frame)
    (type code : UInt8) :
    KeepsInFrame length start (sendIcmpMsg memory handle packet type code)
      fun _ => True := by
  refine keeps_then (keeps_inFrame_modify fun _ => rfl) fun _ => ?_
  refine keeps_then (keeps_inFrame_touch fun framed => absurd framed other) fun _ => ?_
  refine keeps_then (keeps_inFrame_load32 memory fun framed => absurd framed other)
    fun src => ?_
  refine keeps_bind keeps_get fun sr _ => ?_
  cases longestPrefixMatching sr.routingTable src with
  | none => exact keeps_pure trivial
  | some rtEntry =>
      refine keeps_ite (fun _ => ?_) fun _ => keeps_ite (fun _ => ?_) fun _ => ?_
      · exact keeps_inFrame_sendEchoReply handleKeeps other _ _ _ _
      · exact keeps_inFrame_sendIcmpError handleKeeps other _ _ _ _
      · exact keeps_pure trivial

theorem keeps_inFrame_timeOutArpreq (request : SrArpreq) :
    KeepsInFrame length start (timeOutArpreq memory handle request) fun _ => True := by
  refine keeps_then (keeps_forM trivial fun packet _ => ?_) fun _ => ?_
  · exact keeps_inFrame_sendIcmpMsg handleKeeps (by simp) _ _
  · cases request.packets with
    | cons packet rest => exact keeps_throw fun _ => trivial
    | nil =>
        refine keeps_then (keeps_inFrame_modify fun _ => rfl) fun _ => ?_
        apply keeps_inFrame_modify
        intro sr
        cases sr.requests.find? fun req => req.id = request.id with
        | none => rfl
        | some req => rfl

end Quiet

theorem keeps_inFrame_broadcastArpreq {length : Nat} {start : SrInstance}
    (request : SrArpreq) :
    KeepsInFrame length start (broadcastArpreq request) fun _ => True := by
  unfold broadcastArpreq
  cases request.packets with
  | nil => exact keeps_throw fun _ => trivial
  | cons packet rest =>
      refine keeps_bind keeps_get fun sr _ => ?_
      cases srGetInterface sr.ifList packet.iface with
      | none => exact keeps_pure trivial
      | some interface =>
          refine keeps_then (keeps_inFrame_modify fun _ => rfl) fun _ => ?_
          refine keeps_then (keeps_touches_srSendPacket _ _) fun _ => ?_
          exact keeps_inFrame_modify fun _ => rfl

/-- However deep time-outs nest, none of them touches the received frame. -/
theorem keeps_inFrame_handleArpreq {length : Nat} {start : SrInstance} (depth : Nat) :
    ∀ id, KeepsInFrame length start (handleArpreq memory depth id) fun _ => True := by
  induction depth with
  | zero => exact fun id => keeps_throw fun _ => trivial
  | succ depth inductionHypothesis =>
      intro id
      refine keeps_bind keeps_get fun sr _ => ?_
      cases sr.request? id with
      | none => exact keeps_throw fun _ => trivial
      | some request =>
          refine keeps_ite (fun _ => ?_) fun _ => keeps_pure trivial
          refine keeps_ite (fun _ => ?_) fun _ => ?_
          · exact keeps_inFrame_timeOutArpreq inductionHypothesis request
          · exact keeps_inFrame_broadcastArpreq request

/-! ## What an ICMP answer to the frame needs -/

/-- The 28 bytes behind the Ethernet header are there. -/
def QuoteFits (frame : Bytes) : Prop := sizeofEthernetHdr + icmpDataSize ≤ frame.length

/-- Type, code and checksum of the ICMP message are there, and so are the bytes
up to the total length. -/
def EchoFits (frame : Bytes) : Prop :=
  sizeofEthernetHdr + headerSize memory frame + 4 ≤ frame.length ∧
    sizeofEthernetHdr + frameIpLen memory frame ≤ frame.length

/-- What `send_icmp_msg` needs of the frame: nothing where no route leads back,
and nothing where the route's interface is missing and its address is wanted. -/
def AnswerFits (sr : SrInstance) (frame : Bytes) (type code : UInt8) : Prop :=
  match longestPrefixMatching sr.routingTable (frameSrc memory frame) with
  | none => True
  | some rtEntry =>
      if type = icmpTypeEchoReply then EchoFits memory frame
      else if type = icmpTypeTimeExceeded ∨ type = icmpTypeDestUnreachable then
        (code = icmpDestUnreachablePort ∨
          (srGetInterface sr.ifList rtEntry.interface).isSome) → QuoteFits frame
      else True

/-- What a datagram for the router itself needs. -/
def DeliveryFits (sr : SrInstance) (frame : Bytes) : Prop :=
  let icmpHdr := sizeofEthernetHdr + headerSize memory frame
  if peek memory.beyond frame ipP = ipProtocolIcmp then
    icmpHdr < frame.length ∧
      (peek memory.beyond frame icmpHdr = icmpTypeEchoRequest →
        AnswerFits memory sr frame icmpTypeEchoReply 0)
  else if peek memory.beyond frame ipP = ipProtocolTcp ∨
      peek memory.beyond frame ipP = ipProtocolUdp then
    AnswerFits memory sr frame icmpTypeDestUnreachable icmpDestUnreachablePort
  else True

/-- What a datagram for another address needs: only a missing route is answered. -/
def ForwardingFits (sr : SrInstance) (frame : Bytes) : Prop :=
  ChecksumAccepts memory frame sizeofIpHdr →
    longestPrefixMatching sr.routingTable (frameDst memory frame) = none →
      AnswerFits memory sr frame icmpTypeDestUnreachable icmpDestUnreachableNet

/-- What an IP frame needs on the whole, branch by branch of `sr_handlepacket`. -/
def FrameFits (sr : SrInstance) (frame : Bytes) : Prop :=
  sizeofEthernetHdr + headerSize memory frame ≤ frame.length ∧
    (ChecksumAccepts memory frame (headerSize memory frame) →
      if frameTtl memory frame ≤ 1 then AnswerFits memory sr frame icmpTypeTimeExceeded 0
      else if frameDst memory frame = 0 then True
      else if (sr.ifList.find? fun walker => walker.ip = frameDst memory frame).isSome then
        DeliveryFits memory sr frame
      else ForwardingFits memory sr frame)

instance (frame : Bytes) : Decidable (QuoteFits frame) :=
  inferInstanceAs (Decidable (_ ≤ _))

instance (frame : Bytes) : Decidable (EchoFits memory frame) :=
  inferInstanceAs (Decidable (_ ∧ _))

theorem answerFits_congr {sr : SrInstance} {frame other : Bytes} {type code : UInt8}
    (error : type ≠ icmpTypeEchoReply) (length : other.length = frame.length)
    (src : frameSrc memory other = frameSrc memory frame) :
    AnswerFits memory sr other type code ↔ AnswerFits memory sr frame type code := by
  simp only [AnswerFits, src, if_neg error, QuoteFits, length]

/-- A buffer written to outside of `ip_hl` and `ip_len`. -/
structure Edited (first buf : Buf) : Prop where
  tag : buf.tag = first.tag
  length : buf.bytes.length = first.bytes.length
  vhl : peek memory.beyond buf.bytes ipVhl = peek memory.beyond first.bytes ipVhl
  len : peek16 memory.beyond buf.bytes ipLen = peek16 memory.beyond first.bytes ipLen

theorem edited_put {memory : Memory} {first buf : Buf}
    (edited : Edited memory first buf) {offset : Nat} {bytes : Bytes}
    (fits : offset + bytes.length ≤ first.bytes.length)
    (outside : offset + bytes.length ≤ 14 ∨ 18 ≤ offset) :
    Edited memory first { buf with bytes := put buf.bytes offset bytes } where
  tag := edited.tag
  length := by
    rw [← edited.length] at fits ⊢
    exact put_length fits
  vhl := by
    rw [← edited.length] at fits
    rw [← edited.vhl]
    exact peek_put_outside memory.beyond fits (by rw [ipVhl]; omega)
  len := by
    rw [← edited.length] at fits
    rw [← edited.len]
    exact peek16_put_outside memory.beyond fits (by rw [ipLen]; omega)

section Answer

variable {length : Nat} (sr : SrInstance) {accesses : List Access} {α : Type}

theorem ends_store_staysInFrame {buf : Buf} (framed : buf.tag = .frame)
    (same : buf.bytes.length = length) (offset : Nat) {bytes : Bytes}
    (nonempty : bytes.length ≠ 0) (rest : Buf → Sr α) (accesses : List Access) :
    Ends (store buf offset bytes >>= rest) (sr.accessed accesses)
        (fun _ => StaysInFrame length sr) (fun _ => StaysInFrame length sr) ↔
      offset + bytes.length ≤ length ∧
        Ends (rest { buf with bytes := put buf.bytes offset bytes })
          (sr.accessed (accesses ++ [⟨.frame, offset, bytes.length⟩]))
          (fun _ => StaysInFrame length sr) (fun _ => StaysInFrame length sr) := by
  rw [ends_bind, ends_store, same, touched_eq_accessed, accessed_accessed, framed]
  by_cases fits : offset + bytes.length ≤ length
  · rw [if_pos fits]
    exact (and_iff_right fits).symm
  · rw [if_neg fits, staysInFrame_iff_of_accessed List.prefix_rfl]
    refine iff_of_false (fun both => ?_) fun both => fits both.1
    have within := (inFrame_cons.mp (inFrame_append.mp both.1).2).1 rfl
    exact (within_iff.mp within).elim nonempty fits

/-- `ends_store_staysInFrame` with the stored buffer named, so that its bytes are
only known as far as `Edited` tells. -/
theorem exists_edited_store {memory : Memory} {first buf : Buf}
    (edited : Edited memory first buf) (framed : first.tag = .frame)
    (same : first.bytes.length = length) (offset : Nat) (bytes : Bytes)
    (nonempty : bytes.length ≠ 0)
    (outside : offset + bytes.length ≤ 14 ∨ 18 ≤ offset) :
    ∃ stored, Edited memory first stored ∧
      ∀ (rest : Buf → Sr Unit) (accesses : List Access),
        Ends (store buf offset bytes >>= rest) (sr.accessed accesses)
            (fun _ => StaysInFrame length sr) (fun _ => StaysInFrame length sr) ↔
          offset + bytes.length ≤ length ∧
            Ends (rest stored)
              (sr.accessed (accesses ++ [⟨.frame, offset, bytes.length⟩]))
              (fun _ => StaysInFrame length sr) (fun _ => StaysInFrame length sr) := by
  have step := fun rest : Buf → Sr Unit => ends_store_staysInFrame sr
    (edited.tag.trans framed) (edited.length.trans same) offset nonempty rest
  by_cases fits : offset + bytes.length ≤ length
  · exact ⟨_, edited_put edited (same ▸ fits) outside, step⟩
  · refine ⟨first, ⟨rfl, rfl, rfl, rfl⟩, fun rest accesses => ?_⟩
    rw [step]
    exact iff_of_false (fun both => fits both.1) fun both => fits both.1

variable {memory} {handle : Nat → Sr Unit}
  (handleMoves : ∀ start id, KeepsMoves True start (handle id) fun _ => True)
  (handleInFrame : ∀ length start id, KeepsInFrame length start (handle id) fun _ => True)

include handleMoves handleInFrame

theorem ends_sendOrQueue_staysInFrame (gw : UInt32) {packet : Buf} (name : Name)
    (room : 12 ≤ length) (long : 34 ≤ packet.bytes.length) :
    Ends (sendOrQueue handle gw packet (srGetInterface sr.ifList name))
        (sr.accessed accesses)
        (fun _ => StaysInFrame length sr) (fun _ => StaysInFrame length sr) ↔
      InFrame length accesses := by
  have moves : KeepsMoves True (sr.accessed accesses)
      (sendOrQueue handle gw packet (srGetInterface sr.ifList name)) fun _ => True :=
    keeps_moves_sendOrQueue handleMoves gw packet name long
  rw [ends_staysInFrame_iff moves]
  apply and_iff_left
  exact (keeps_inFrame_sendOrQueue (handleInFrame _ _) gw _ fun _ => room).finalState
    (StaysInFrame.refl _ _)

theorem ends_sendIcmpError_staysInFrame {packet : Buf} (framed : packet.tag = .frame)
    (same : packet.bytes.length = length) (long : 34 ≤ length) (type code : UInt8)
    (rtEntry : SrRt) :
    Ends (sendIcmpError memory handle packet type code rtEntry
          (srGetInterface sr.ifList rtEntry.interface)) (sr.accessed accesses)
        (fun _ => StaysInFrame length sr) (fun _ => StaysInFrame length sr) ↔
      InFrame length accesses ∧
        ((code = icmpDestUnreachablePort ∨
          (srGetInterface sr.ifList rtEntry.interface).isSome) →
            QuoteFits packet.bytes) := by
  have quoted : ∀ tail : List Access, InFrame length tail →
      (InFrame length (accesses ++ ⟨.frame, ipVhl, 1⟩ ::
          (tail ++ [⟨.frame, ipSrc, 4⟩, ⟨.frame, sizeofEthernetHdr, icmpDataSize⟩])) ↔
        InFrame length accesses ∧ QuoteFits packet.bytes) := by
    intro tail tailInside
    have vhlInside : ipVhl + 1 ≤ length := by rw [ipVhl]; omega
    have srcInside : ipSrc + 4 ≤ length := by rw [ipSrc]; omega
    simp [tailInside, QuoteFits, same, vhlInside, srcInside,
      icmpDataSize]
  have newPacketLong : ∀ src dst quote, 34 ≤ (icmpErrorPacket memory
      (headerLength (peek memory.beyond packet.bytes ipVhl)) type code src dst
      quote).length := fun src dst quote =>
    Nat.le_trans (by omega) (icmpErrorPacket_long memory _ _ _ _ _ _)
  simp only [sendIcmpError, errorSource, ends_bind, ends_load8, ends_ite, ends_load32,
    ends_load, touched_eq_accessed, accessed_accessed, framed]
  generalize icmpErrorPacket memory
    (headerLength (peek memory.beyond packet.bytes ipVhl)) type code = newPacket
    at newPacketLong ⊢
  by_cases port : code = icmpDestUnreachablePort
  · rw [if_pos port, ends_sendOrQueue_staysInFrame sr handleMoves handleInFrame _ _
      (by omega) (newPacketLong _ _ _)]
    have inside : InFrame length [⟨.frame, ipDst, 4⟩] := by
      rw [inFrame_frame_cons, ipDst]
      exact ⟨Or.inr (by omega), inFrame_nil length⟩
    simpa [port] using quoted _ inside
  · rw [if_neg port]
    cases found : srGetInterface sr.ifList rtEntry.interface with
    | none =>
        simp only [ends_dereference_none]
        rw [staysInFrame_iff_of_accessed List.prefix_rfl]
        have vhlInside : ipVhl + 1 ≤ length := by rw [ipVhl]; omega
        simp [port, vhlInside, StaysInFrame.refl]
    | some interface =>
        simp only [ends_dereference_some, ends_pure, accessed_accessed]
        rw [← found, ends_sendOrQueue_staysInFrame sr handleMoves handleInFrame _ _
          (by omega) (newPacketLong _ _ _)]
        simpa [found] using quoted [] (inFrame_nil length)

theorem ends_sendEchoReply_staysInFrame {packet : Buf} (framed : packet.tag = .frame)
    (same : packet.bytes.length = length) (long : 34 ≤ length)
    (header : headerSize memory packet.bytes ≠ 0) (type code : UInt8) (rtEntry : SrRt) :
    Ends (sendEchoReply memory handle packet type code rtEntry
          (srGetInterface sr.ifList rtEntry.interface)) (sr.accessed accesses)
        (fun _ => StaysInFrame length sr) (fun _ => StaysInFrame length sr) ↔
      InFrame length accesses ∧ EchoFits memory packet.bytes := by
  -- where ip_hl is not 0, the ICMP header does not overlap ip_len
  have behindLen : 18 ≤ sizeofEthernetHdr + headerSize memory packet.bytes := by
    rw [headerSize] at header ⊢
    rw [sizeofEthernetHdr]
    omega
  have start : Edited memory packet packet := ⟨rfl, rfl, rfl, rfl⟩
  obtain ⟨b1, edited1, step1⟩ := exists_edited_store sr start framed same
    etherShost (List.replicate 6 0) (by simp) (Or.inl (by decide))
  obtain ⟨b2, edited2, step2⟩ := exists_edited_store sr edited1 framed same
    etherDhost (List.replicate 6 0) (by simp) (Or.inl (by decide))
  obtain ⟨b3, edited3, step3⟩ := exists_edited_store sr edited2 framed same
    ipDst (bytes32 (peek32 memory.beyond b2.bytes ipSrc)) (by simp)
    (Or.inr (by decide))
  obtain ⟨b4, edited4, step4⟩ := exists_edited_store sr edited3 framed same
    ipSrc (bytes32 (peek32 memory.beyond b2.bytes ipDst)) (by simp)
    (Or.inr (by decide))
  obtain ⟨b5, edited5, step5⟩ := exists_edited_store sr edited4 framed same
    (sizeofEthernetHdr + headerSize memory packet.bytes) [type]
    (by simp) (Or.inr behindLen)
  obtain ⟨b6, edited6, step6⟩ := exists_edited_store sr edited5 framed same
    (sizeofEthernetHdr + headerSize memory packet.bytes + 1) [code]
    (by simp) (Or.inr (by omega))
  obtain ⟨b7, edited7, step7⟩ := exists_edited_store sr edited6 framed same
    (sizeofEthernetHdr + headerSize memory packet.bytes + 2) (bytes16 0)
    (by simp) (Or.inr (by omega))
  have step8 := fun sum => exists_edited_store sr edited7 framed same
    (sizeofEthernetHdr + headerSize memory packet.bytes + 2) (bytes16 sum)
    (by simp) (Or.inr (by omega))
  have vhl : headerLength (peek memory.beyond packet.bytes ipVhl) * 4 =
      headerSize memory packet.bytes := rfl
  rw [sendEchoReply, step1, step2, ends_bind, ends_load32, ends_bind, ends_load32,
    touched_eq_accessed, touched_eq_accessed, accessed_accessed, accessed_accessed,
    step3, step4, ends_bind, ends_load8, touched_eq_accessed, accessed_accessed,
    edited4.vhl, vhl, step5, step6, step7, ends_bind, ends_load16, ends_bind, ends_load8,
    ends_bind, ends_load, edited7.vhl, vhl, edited7.len, touched_eq_accessed,
    touched_eq_accessed, touched_eq_accessed, accessed_accessed, accessed_accessed,
    accessed_accessed]
  generalize cksum (Bytes.read memory.beyond b7.bytes
    (sizeofEthernetHdr + headerSize memory packet.bytes)
    ((ntohs (peek16 memory.beyond packet.bytes ipLen)).toNat -
      headerSize memory packet.bytes)) = sum
  obtain ⟨b8, edited8, step8⟩ := step8 sum
  rw [step8, ends_sendOrQueue_staysInFrame sr handleMoves handleInFrame _ _ (by omega)
    (by rw [edited8.length]; omega), edited2.tag, edited4.tag, edited7.tag, framed]
  simp only [inFrame_append, inFrame_frame_cons, inFrame_nil, and_true, EchoFits,
    frameIpLen, same, List.length_replicate, List.length_singleton, bytes16_length,
    bytes32_length]
  generalize headerSize memory packet.bytes = size at header behindLen ⊢
  generalize (ntohs (peek16 memory.beyond packet.bytes ipLen)).toNat = total
  simp only [sizeofEthernetHdr, etherShost, etherDhost, ipDst, ipSrc, ipVhl, ipLen]
  by_cases earlier : InFrame length accesses
  · simp only [earlier, true_and]
    omega
  · simp only [earlier, false_and, and_false]

theorem ends_sendIcmpMsg_staysInFrame (packet : Buf) (framed : packet.tag = .frame)
    (same : packet.bytes.length = length) (long : 34 ≤ length) {type code : UInt8}
    (header : type = icmpTypeEchoReply → headerSize memory packet.bytes ≠ 0) :
    Ends (sendIcmpMsg memory handle packet type code) (sr.accessed accesses)
        (fun _ => StaysInFrame length sr) (fun _ => StaysInFrame length sr) ↔
      InFrame length accesses ∧ AnswerFits memory sr packet.bytes type code := by
  have addressInside : ipSrc + 4 ≤ length := by rw [ipSrc]; omega
  have headerInside : sizeofIpHdr ≤ length := by rw [sizeofIpHdr]; omega
  let called := accesses ++ [⟨.frame, 0, sizeofIpHdr⟩, ⟨.frame, ipSrc, 4⟩]
  have inside : InFrame length called ↔ InFrame length accesses := by
    simp [called, addressInside, headerInside]
  let noted := sr.record (.icmp .frame type code)
  have reached : (((sr.accessed accesses).record (.icmp packet.tag type code)).touched
      packet 0 sizeofIpHdr).touched packet ipSrc 4 = noted.accessed called := by
    simp [noted, called, SrInstance.touched, SrInstance.accessed, SrInstance.record, framed]
  have stays : StaysInFrame length sr = StaysInFrame length noted := rfl
  rw [sendIcmpMsg, ends_bind, ends_log, ends_bind, ends_touch, ends_bind, ends_load32,
    ends_bind, ends_get, reached, stays, ← inside]
  change Ends (match longestPrefixMatching noted.routingTable
    (frameSrc memory packet.bytes) with | none => _ | some _ => _) _ _ _ ↔ _ ∧
      AnswerFits memory noted packet.bytes type code
  rw [AnswerFits]
  cases longestPrefixMatching noted.routingTable (frameSrc memory packet.bytes) with
  | none =>
      simp only [ends_pure, and_true]
      rw [staysInFrame_iff_of_accessed List.prefix_rfl]
      exact and_iff_left (StaysInFrame.refl _ _)
  | some rtEntry =>
      by_cases echo : type = icmpTypeEchoReply
      · simp only [if_pos echo]
        exact ends_sendEchoReply_staysInFrame noted handleMoves handleInFrame framed same long
          (header echo) type code rtEntry
      · by_cases error : type = icmpTypeTimeExceeded ∨ type = icmpTypeDestUnreachable
        · simp only [if_neg echo, if_pos error]
          exact ends_sendIcmpError_staysInFrame noted handleMoves handleInFrame framed same long
            type code rtEntry
        · simp only [if_neg echo, if_neg error, ends_pure, and_true]
          rw [staysInFrame_iff_of_accessed List.prefix_rfl]
          exact and_iff_left (StaysInFrame.refl _ _)

theorem ends_deliverLocally_staysInFrame {frame : Bytes} (long : 34 ≤ frame.length) :
    Ends (deliverLocally memory handle ⟨.frame, frame⟩) (sr.accessed accesses)
        (fun _ => StaysInFrame frame.length sr) (fun _ => StaysInFrame frame.length sr) ↔
      InFrame frame.length accesses ∧ DeliveryFits memory sr frame := by
  have protocolInside : ipP + 1 ≤ frame.length := by rw [ipP]; omega
  have vhlInside : ipVhl + 1 ≤ frame.length := by rw [ipVhl]; omega
  have vhl : headerLength (peek memory.beyond frame ipVhl) * 4 = headerSize memory frame :=
    rfl
  rw [deliverLocally, ends_bind, ends_load8, touched_eq_accessed, accessed_accessed,
    ends_ite, DeliveryFits]
  by_cases icmp : peek memory.beyond frame ipP = ipProtocolIcmp
  · simp only [if_pos icmp]
    rw [ends_bind, ends_load8, touched_eq_accessed, accessed_accessed, ends_bind,
      ends_load8, touched_eq_accessed, accessed_accessed, vhl, ends_ite]
    have inside : InFrame frame.length ((accesses ++ [⟨.frame, ipP, 1⟩] ++
          [⟨.frame, ipVhl, 1⟩]) ++
          [⟨.frame, sizeofEthernetHdr + headerSize memory frame, 1⟩]) ↔
        InFrame frame.length accesses ∧
          sizeofEthernetHdr + headerSize memory frame < frame.length := by
      simp only [inFrame_append, inFrame_frame_cons, inFrame_nil, and_true, protocolInside,
        vhlInside, Nat.lt_iff_add_one_le, or_true, Nat.one_ne_zero, false_or]
    by_cases echo : peek memory.beyond frame
        (sizeofEthernetHdr + headerSize memory frame) = icmpTypeEchoRequest
    · have header : headerSize memory frame ≠ 0 := by
        intro empty
        -- an echo request's type in the place of the first header byte gives ip_hl = 8
        have first : peek memory.beyond frame ipVhl = 8 := by
          rw [empty] at echo
          exact echo
        rw [headerSize, first] at empty
        exact absurd empty (by decide)
      rw [if_pos echo, ends_sendIcmpMsg_staysInFrame sr handleMoves handleInFrame
        ⟨.frame, frame⟩ rfl rfl long fun _ => header, inside, and_assoc]
      simp only [echo, forall_const]
    · rw [if_neg echo, ends_pure, staysInFrame_iff_of_accessed List.prefix_rfl, inside]
      simp only [echo, false_implies, and_true, StaysInFrame.refl]
  · have other : icmpTypeDestUnreachable ≠ icmpTypeEchoReply := by decide
    have inside : InFrame frame.length (accesses ++ [⟨.frame, ipP, 1⟩]) ↔
        InFrame frame.length accesses := by
      simp [protocolInside]
    simp only [if_neg icmp]
    rw [ends_ite]
    split
    · rw [ends_sendIcmpMsg_staysInFrame sr handleMoves handleInFrame ⟨.frame, frame⟩ rfl
        rfl long fun echo => absurd echo other, inside]
    · rw [ends_pure, staysInFrame_iff_of_accessed List.prefix_rfl, inside]
      simp only [and_true, StaysInFrame.refl]

theorem ends_srForwardIpPacket_staysInFrame {frame : Bytes} (long : 34 ≤ frame.length)
    (alive : ¬ frameTtl memory frame ≤ 1) :
    Ends (srForwardIpPacket memory handle ⟨.frame, frame⟩) (sr.accessed accesses)
        (fun _ => StaysInFrame frame.length sr) (fun _ => StaysInFrame frame.length sr) ↔
      InFrame frame.length accesses ∧ ForwardingFits memory sr frame := by
  have forwardedLength := forwardedFrame_length memory long
  have checkInside : InFrame frame.length
      (accesses ++ secondCheckAccesses ⟨.frame, frame⟩) ↔
      InFrame frame.length accesses := by
    simp only [secondCheckAccesses, inFrame_append, inFrame_frame_cons, inFrame_nil,
      and_true, and_iff_left_iff_imp, ipDst, ipSum, sizeofEthernetHdr, sizeofIpHdr]
    omega
  have rewriteInside : InFrame frame.length (accesses ++
      (secondCheckAccesses ⟨.frame, frame⟩ ++ rewriteAccesses ⟨.frame, frame⟩)) ↔
      InFrame frame.length accesses := by
    rw [← List.append_assoc, inFrame_append, checkInside]
    simp only [rewriteAccesses, inFrame_frame_cons, inFrame_nil,
      and_true, and_iff_left_iff_imp, ipDst, ipSum, ipTtl, sizeofEthernetHdr, sizeofIpHdr]
    omega
  rw [ends_srForwardIpPacket memory _ _ ⟨.frame, frame⟩ _ _ long, ForwardingFits]
  by_cases accepted : ChecksumAccepts memory frame sizeofIpHdr
  · simp only [if_neg alive, accepted, forall_const, accessed_accessed]
    change Ends (match longestPrefixMatching sr.routingTable (frameDst memory frame) with
      | none => _ | some _ => _) _ _ _ ↔ _
    cases longestPrefixMatching sr.routingTable (frameDst memory frame) with
    | none =>
        have other : icmpTypeDestUnreachable ≠ icmpTypeEchoReply := by decide
        have src : frameSrc memory (forwardedFrame memory frame) = frameSrc memory frame :=
          peek32_forwardedFrame memory long (by decide)
        simp only [forall_const]
        rw [ends_sendIcmpMsg_staysInFrame sr handleMoves handleInFrame
          ⟨.frame, forwardedFrame memory frame⟩ rfl forwardedLength long
          fun echo => absurd echo other, rewriteInside,
          answerFits_congr memory other forwardedLength src]
    | some routingTableEntry =>
        simp only [reduceCtorEq, false_implies, and_true]
        rw [← rewriteInside]
        exact ends_sendOrQueue_staysInFrame sr handleMoves handleInFrame _ _ (by omega)
          (by rw [forwardedLength]; exact long)
  · simp only [accepted, false_implies, and_true, accessed_accessed]
    rw [staysInFrame_iff_of_accessed List.prefix_rfl, checkInside]
    exact and_iff_left (StaysInFrame.refl _ _)

theorem ends_handleIpFrame_staysInFrame {frame : Bytes} (long : 34 ≤ frame.length) :
    Ends (handleIpFrame memory handle ⟨.frame, frame⟩) (sr.accessed accesses)
        (fun _ => StaysInFrame frame.length sr) (fun _ => StaysInFrame frame.length sr) ↔
      InFrame frame.length accesses ∧ FrameFits memory sr frame := by
  have headerInside : InFrame frame.length
      (accesses ++ headerAccesses memory ⟨.frame, frame⟩) ↔
      InFrame frame.length accesses ∧
        sizeofEthernetHdr + headerSize memory frame ≤ frame.length := by
    have sumInside : ipSum + 2 ≤ frame.length := by rw [ipSum]; omega
    have vhlInside : ipVhl + 1 ≤ frame.length := by rw [ipVhl]; omega
    have empty : headerSize memory frame = 0 →
        sizeofEthernetHdr + headerSize memory frame ≤ frame.length := by
      intro empty
      rw [empty, sizeofEthernetHdr]
      omega
    simp only [headerAccesses, inFrame_append, inFrame_frame_cons, inFrame_nil, and_true,
      sumInside, vhlInside, or_true, true_and, or_iff_right_of_imp empty]
  have ttlInside : InFrame frame.length (ttlAccesses ⟨.frame, frame⟩) := by
    simp only [ttlAccesses, inFrame_frame_cons, inFrame_nil, and_true, ipSum, ipTtl]
    omega
  have dstInside : InFrame frame.length (dstAccesses ⟨.frame, frame⟩) := by
    simp only [dstAccesses, inFrame_frame_cons, inFrame_nil, and_true, ipDst]
    omega
  rw [ends_handleIpFrame memory _ _ ⟨.frame, frame⟩ _ _ long, FrameFits]
  simp only [accessed_accessed]
  by_cases accepted : ChecksumAccepts memory frame (headerSize memory frame)
  · simp only [accepted, if_true, forall_const]
    by_cases expired : frameTtl memory frame ≤ 1
    · have other : icmpTypeTimeExceeded ≠ icmpTypeEchoReply := by decide
      simp only [if_pos expired]
      rw [ends_sendIcmpMsg_staysInFrame sr handleMoves handleInFrame ⟨.frame, frame⟩ rfl
        rfl long fun echo => absurd echo other, ← List.append_assoc, inFrame_append,
        headerInside, and_iff_left ttlInside, and_assoc]
    · have inside : InFrame frame.length (accesses ++ (headerAccesses memory
          ⟨.frame, frame⟩ ++ ttlAccesses ⟨.frame, frame⟩ ++
            dstAccesses ⟨.frame, frame⟩)) ↔
          InFrame frame.length accesses ∧
            sizeofEthernetHdr + headerSize memory frame ≤ frame.length := by
        rw [← List.append_assoc, ← List.append_assoc, inFrame_append, inFrame_append,
          headerInside, and_iff_left ttlInside, and_iff_left dstInside]
      simp only [if_neg expired]
      by_cases zero : frameDst memory frame = 0
      · simp only [if_pos zero, and_true]
        rw [staysInFrame_iff_of_accessed List.prefix_rfl, inside]
        exact and_iff_left (StaysInFrame.refl _ _)
      · simp only [if_neg zero]
        rw [← and_assoc, ← inside]
        have sameList : ∀ accesses, (sr.accessed accesses).ifList = sr.ifList := fun _ => rfl
        rw [sameList]
        cases sr.ifList.find? fun walker => walker.ip = frameDst memory frame with
        | some interface =>
            exact ends_deliverLocally_staysInFrame sr handleMoves handleInFrame long
        | none =>
            exact ends_srForwardIpPacket_staysInFrame sr handleMoves handleInFrame long
              expired
  · simp only [accepted, if_false, false_implies, and_true]
    rw [staysInFrame_iff_of_accessed List.prefix_rfl, headerInside]
    exact and_iff_left (StaysInFrame.refl _ _)

end Answer

/-- An IP frame is accessed inside its bytes exactly when it is dropped as too
short or holds all that its branch trusts to be there. -/
theorem srHandlepacket_staysInFrame_iff (sr : SrInstance) (depth : Nat) (frame : Bytes)
    (arrival : Name) (ip : frameEthertype memory frame = ethertypeIp) :
    StaysInFrame frame.length sr
        (finalState (srHandlepacket memory depth ⟨.frame, frame⟩ arrival) sr) ↔
      frame.length < sizeofEthernetHdr + sizeofIpHdr ∨ FrameFits memory sr frame := by
  have different : ethertypeIp ≠ ethertypeArp := by decide
  change Confined frame.length (srHandlepacket memory depth ⟨.frame, frame⟩ arrival) sr ↔ _
  rw [confined_iff_ends, ends_srHandlepacket, ip, if_neg different, if_pos rfl]
  by_cases tiny : frame.length < sizeofEthernetHdr
  · rw [if_pos tiny]
    refine iff_of_true (StaysInFrame.refl _ _) (Or.inl ?_)
    exact Nat.lt_add_right _ tiny
  · have typeInside : InFrame frame.length [⟨.frame, etherType, 2⟩] := by
      simp only [inFrame_frame_cons, inFrame_nil, and_true, etherType]
      rw [sizeofEthernetHdr] at tiny
      omega
    rw [if_neg tiny, touched_eq_accessed]
    by_cases short : frame.length < sizeofEthernetHdr + sizeofIpHdr
    · rw [handleIpFrame, ends_ite, if_pos short, ends_pure,
        staysInFrame_iff_of_accessed List.prefix_rfl]
      exact iff_of_true ⟨typeInside, StaysInFrame.refl _ _⟩ (Or.inl short)
    · rw [ends_handleIpFrame_staysInFrame sr
        (fun start id => keeps_moves_handleArpreq memory depth id)
        (fun length start id => keeps_inFrame_handleArpreq memory depth id)
        (Nat.not_lt.mp short), and_iff_right typeInside]
      exact (or_iff_right short).symm

theorem datagram_staysInFrame :
    StaysInFrame datagram.length smallNetwork
        (finalState (srHandlepacket noMemory 1 ⟨.frame, datagram⟩ eth0.name)
          smallNetwork) ↔
      datagram.length < sizeofEthernetHdr + sizeofIpHdr ∨
        FrameFits noMemory smallNetwork datagram :=
  srHandlepacket_staysInFrame_iff noMemory smallNetwork 1 datagram eth0.name
    (by decide +kernel)

/-- 60 bytes, the least that Ethernet sends, whose `ip_hl` promises a header of 60. -/
def longHeaderFrame : Bytes :=
  [2, 0, 0, 0, 0, 1, 2, 0, 0, 0, 0, 2, 8, 0, 0x4f] ++ List.replicate 45 0

theorem longHeaderFrame_overruns :
    ¬ StaysInFrame longHeaderFrame.length smallNetwork
      (finalState (srHandlepacket noMemory 1 ⟨.frame, longHeaderFrame⟩ eth0.name)
        smallNetwork) := by
  rintro ⟨accesses, same, inside⟩
  have made : ⟨.frame, 14, 60⟩ ∈ (finalState
      (srHandlepacket noMemory 1 ⟨.frame, longHeaderFrame⟩ eth0.name)
      smallNetwork).accesses := by
    decide +kernel
  rw [same] at made
  exact absurd (inside _ made rfl 46 (by decide)) (by decide)

end Cmput313.Router
