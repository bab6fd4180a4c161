import Cmput313.Router.Forwarding

/-!
# The frame that a call emits

A handler that comes to the tail hands one frame to `sr_send_packet` or to the
queue, and it does so before anything else that is seen outside.  The frame
depends on the ARP table only by its two hardware addresses.
-/

set_option autoImplicit false

namespace Cmput313.Router

open Cmput313.Bytes Cmput313.Program

def Event.frame? : Event → Option Bytes
  | .sendPacket buf _ => some buf
  | .queued _ _ _ buf _ => some buf
  | _ => none

def emitted (program : Sr Unit) (sr : SrInstance) : Option Bytes :=
  ((finalState program sr).trace.drop sr.trace.length).findSome? Event.frame?

/-- What the tail makes of a packet: addressed, where the table knows the gateway. -/
def outgoingFrame (entries : ArpTable) (gw : UInt32) (packet : Bytes)
    (interface : SrIf) : Bytes :=
  match srArpcacheLookup entries gw with
  | some arpEntry => addressedFrame packet arpEntry.mac interface
  | none => packet

/-- The route towards an address and the interface it names, where that exists. -/
def outgoingRoute (sr : SrInstance) (ip : UInt32) : Option (SrRt × SrIf) :=
  match longestPrefixMatching sr.routingTable ip with
  | none => none
  | some rtEntry =>
      (srGetInterface sr.ifList rtEntry.interface).map fun interface => (rtEntry, interface)

theorem Event.IsNote.frame? {event : Event} (isNote : event.IsNote) : event.frame? = none := by
  cases event with
  | icmp packet type code => rfl
  | swept request onQueue => rfl
  | _ => exact isNote.elim

theorem findSome?_notes {notes : List Event} (quiet : ∀ note ∈ notes, note.IsNote)
    (rest : List Event) :
    (notes ++ rest).findSome? Event.frame? = rest.findSome? Event.frame? := by
  induction notes with
  | nil => rfl
  | cons note notes inductionHypothesis =>
      have first := (quiet note (List.mem_cons_self ..)).frame?
      rw [List.cons_append, List.findSome?_cons, first]
      exact inductionHypothesis fun other member => quiet other (List.mem_cons_of_mem _ member)

/-- `ip_hl` and `ip_len` fit each other and the frame. -/
structure WellFormedDatagram (memory : Memory) (frame : Bytes) : Prop where
  fixedHeader : sizeofIpHdr ≤ headerSize memory frame
  wholeHeader : headerSize memory frame ≤ frameIpLen memory frame
  wholeDatagram : sizeofEthernetHdr + frameIpLen memory frame ≤ frame.length

theorem WellFormedDatagram.long {memory : Memory} {frame : Bytes}
    (wellFormed : WellFormedDatagram memory frame) : 34 ≤ frame.length := by
  have fixedHeader := wellFormed.fixedHeader
  have wholeHeader := wellFormed.wholeHeader
  have wholeDatagram := wellFormed.wholeDatagram
  rw [sizeofIpHdr] at fixedHeader
  rw [sizeofEthernetHdr] at wholeDatagram
  omega

theorem WellFormedDatagram.fixed {memory : Memory} {frame : Bytes}
    (wellFormed : WellFormedDatagram memory frame) :
    5 ≤ headerLength (peek memory.beyond frame ipVhl) := by
  have fixedHeader := wellFormed.fixedHeader
  rw [headerSize, sizeofIpHdr] at fixedHeader
  omega

/-! ## Programs that only look at a buffer first -/

/-- From any state the program goes on with `other`, after accesses only. -/
def LeadsTo (program other : Sr Unit) : Prop :=
  ∀ sr, ∃ accesses, program sr = other (sr.accessed accesses)

section LeadsTo

variable {other : Sr Unit} {buf : Buf} {offset : Nat}

theorem LeadsTo.refl (program : Sr Unit) : LeadsTo program program :=
  fun sr => ⟨[], by simp [SrInstance.accessed]⟩

theorem leadsTo_value {α : Type} {first : Sr α} {value : α} {rest : α → Sr Unit}
    (runs : ∀ sr, first sr = .ok value sr) (later : LeadsTo (rest value) other) :
    LeadsTo (first >>= rest) other := by
  intro sr
  obtain ⟨accesses, run⟩ := later sr
  refine ⟨accesses, ?_⟩
  simp only [bind, EStateM.bind, runs]
  exact run

theorem leadsTo_touched {α : Type} {first : Sr α} {value : α} {size : Nat}
    {rest : α → Sr Unit} (runs : ∀ sr, first sr = .ok value (sr.touched buf offset size))
    (later : LeadsTo (rest value) other) : LeadsTo (first >>= rest) other := by
  intro sr
  obtain ⟨accesses, run⟩ := later (sr.touched buf offset size)
  refine ⟨⟨buf.tag, offset, size⟩ :: accesses, ?_⟩
  rw [touched_eq_accessed, accessed_accessed] at run
  simp only [bind, EStateM.bind, runs]
  exact run

theorem leadsTo_store {bytes : Bytes} {rest : Buf → Sr Unit}
    (fits : offset + bytes.length ≤ buf.bytes.length)
    (later : LeadsTo (rest { buf with bytes := put buf.bytes offset bytes }) other) :
    LeadsTo (store buf offset bytes >>= rest) other :=
  leadsTo_touched (fun sr => (store_eq buf offset sr bytes).trans (if_pos fits)) later

variable {memory : Memory}

theorem leadsTo_load {size : Nat} {rest : Bytes → Sr Unit}
    (later : LeadsTo (rest (read memory.beyond buf.bytes offset size)) other) :
    LeadsTo (load memory buf offset size >>= rest) other :=
  leadsTo_touched (fun _ => rfl) later

theorem leadsTo_load8 {rest : UInt8 → Sr Unit}
    (later : LeadsTo (rest (peek memory.beyond buf.bytes offset)) other) :
    LeadsTo (load8 memory buf offset >>= rest) other :=
  leadsTo_touched (fun _ => rfl) later

theorem leadsTo_load16 {rest : UInt16 → Sr Unit}
    (later : LeadsTo (rest (peek16 memory.beyond buf.bytes offset)) other) :
    LeadsTo (load16 memory buf offset >>= rest) other :=
  leadsTo_touched (fun _ => rfl) later

theorem leadsTo_load32 {rest : UInt32 → Sr Unit}
    (later : LeadsTo (rest (peek32 memory.beyond buf.bytes offset)) other) :
    LeadsTo (load32 memory buf offset >>= rest) other :=
  leadsTo_touched (fun _ => rfl) later

end LeadsTo

/-! ## From the trace to the frame -/

section Emitted

variable {program : Sr Unit} {sr : SrInstance}

theorem emitted_of_firstEffect {event : Event} {buf : Bytes}
    (first : FirstEffect program sr event) (frame : event.frame? = some buf) :
    emitted program sr = some buf := by
  obtain ⟨notes, rest, trace, quiet⟩ := first
  rw [emitted, trace, List.drop_left, findSome?_notes quiet, List.findSome?_cons, frame]

/-- Up to where only notes were left, a program may be replaced by what it goes on with. -/
theorem emitted_of_continues {other : Sr Unit} {after : SrInstance} (noted : Noted sr after)
    (continues : program sr = other after) (grows : after.trace <+: (finalState other after).trace) :
    emitted program sr = emitted other after := by
  obtain ⟨notes, trace, quiet⟩ := noted.trace
  obtain ⟨rest, whole⟩ := grows
  have same : finalState program sr = finalState other after := by
    rw [finalState, continues, finalState]
  rw [emitted, emitted, same, ← whole, List.drop_left, trace, List.append_assoc,
    List.drop_left, findSome?_notes quiet]

theorem emitted_eq_none {after : SrInstance} (noted : Noted sr after)
    (silent : (finalState program sr).trace = after.trace) : emitted program sr = none := by
  obtain ⟨notes, trace, quiet⟩ := noted.trace
  have nothing := findSome?_notes quiet []
  rw [List.append_nil] at nothing
  rw [emitted, silent, trace, List.drop_left, nothing]
  rfl

theorem emitted_of_tail {memory : Memory} {depth : Nat} {after : SrInstance}
    (noted : Noted sr after) {gw : UInt32} {packet : Buf} {interface : SrIf}
    (long : 34 ≤ packet.bytes.length)
    (tail : program sr =
      sendOrQueue (handleArpreq memory depth) gw packet (some interface) after) :
    emitted program sr = some (outgoingFrame sr.entries gw packet.bytes interface) := by
  have entries : after.entries = sr.entries := by
    obtain ⟨_, same⟩ := noted.same
    rw [same]
  rw [← entries, outgoingFrame]
  cases lookup : srArpcacheLookup after.entries gw with
  | some arpEntry =>
      exact emitted_of_firstEffect (firstEffect_of_hit noted long lookup tail) rfl
  | none =>
      exact emitted_of_firstEffect (moves_of_miss noted long lookup tail).2 rfl

theorem emitted_of_tail_none {handle : Nat → Sr Unit} {after : SrInstance}
    (noted : Noted sr after) {gw : UInt32} {packet : Buf}
    (tail : program sr = sendOrQueue handle gw packet none after) :
    emitted program sr = none := by
  have silent := (ends_sendOrQueue_none after handle gw packet).finalState
  rw [finalState, ← tail, ← finalState] at silent
  exact emitted_eq_none noted silent

end Emitted

section Report

variable {memory : Memory} {handle : Nat → Sr Unit} {sr : SrInstance} {packet : Buf}
  {type code : UInt8}

theorem sendIcmpMsg_continues :
    Noted sr ((sr.record (.icmp packet.tag type code)).accessed
        [⟨packet.tag, 0, sizeofIpHdr⟩, ⟨packet.tag, ipSrc, 4⟩]) ∧
      sendIcmpMsg memory handle packet type code sr =
        (match longestPrefixMatching sr.routingTable (frameSrc memory packet.bytes) with
        | none => pure ()
        | some rtEntry =>
            if type = icmpTypeEchoReply then
              sendEchoReply memory handle packet type code rtEntry
                (srGetInterface sr.ifList rtEntry.interface)
            else if type = icmpTypeTimeExceeded ∨ type = icmpTypeDestUnreachable then
              sendIcmpError memory handle packet type code rtEntry
                (srGetInterface sr.ifList rtEntry.interface)
            else pure () : Sr Unit)
          ((sr.record (.icmp packet.tag type code)).accessed
            [⟨packet.tag, 0, sizeofIpHdr⟩, ⟨packet.tag, ipSrc, 4⟩]) := by
  refine ⟨(noted_record sr (event_icmp_isNote _ _ _)).trans (noted_accessed _ _), ?_⟩
  apply result_eq_of_ends_iff
  intro returned stopped
  simp only [sendIcmpMsg, ends_bind, ends_log, ends_touch, ends_load32, ends_get,
    touched_eq_accessed, accessed_accessed]
  rfl

theorem emitted_of_report {program : Sr Unit} {depth : Nat} {after : SrInstance}
    (noted : Noted sr after)
    (continues : program sr =
      sendIcmpMsg memory (handleArpreq memory depth) packet type code after) :
    emitted program sr =
      emitted (sendIcmpMsg memory (handleArpreq memory depth) packet type code) after := by
  obtain ⟨rest, trace⟩ := trace_sendIcmpMsg memory depth packet type code after
  exact emitted_of_continues noted continues ⟨_, trace.symm⟩

end Report

/-! ## Behind the hardware addresses -/

section SameDatagram

variable {memory : Memory} {left right : Bytes} (same : SameDatagram memory left right)

include same

theorem SameDatagram.frameIpLen : frameIpLen memory left = frameIpLen memory right := by
  rw [Router.frameIpLen, Router.frameIpLen, peek16, peek16, same ipLen (by decide),
    same (ipLen + 1) (by decide)]

theorem SameDatagram.peek32 {index : Nat} (behind : sizeofEthernetHdr ≤ index) :
    peek32 memory.beyond left index = peek32 memory.beyond right index := by
  rw [Bytes.peek32, Bytes.peek32, same index behind, same (index + 1) (by omega),
    same (index + 2) (by omega), same (index + 3) (by omega)]

theorem SameDatagram.read {start : Nat} (behind : sizeofEthernetHdr ≤ start) (size : Nat) :
    read memory.beyond left start size = read memory.beyond right start size :=
  List.map_congr_left fun index _ => same (start + index) (by omega)

end SameDatagram

theorem outgoingFrame_eq_or (entries : ArpTable) (gw : UInt32) (packet : Bytes)
    (interface : SrIf) :
    outgoingFrame entries gw packet interface = packet ∨
      ∃ mac, outgoingFrame entries gw packet interface = addressedFrame packet mac interface := by
  unfold outgoingFrame
  cases srArpcacheLookup entries gw with
  | none => exact Or.inl rfl
  | some arpEntry => exact Or.inr ⟨arpEntry.mac, rfl⟩

theorem sameDatagram_outgoingFrame {memory : Memory} (entries : ArpTable) (gw : UInt32)
    {packet : Bytes} (long : 34 ≤ packet.length) (interface : SrIf) :
    (outgoingFrame entries gw packet interface).length = packet.length ∧
      SameDatagram memory (outgoingFrame entries gw packet interface) packet ∧
      ∀ index, sizeofEthernetHdr ≤ index →
        (outgoingFrame entries gw packet interface)[index]? = packet[index]? := by
  rcases outgoingFrame_eq_or entries gw packet interface with same | ⟨mac, same⟩
  · rw [same]
    exact ⟨rfl, fun _ _ => rfl, fun _ _ => rfl⟩
  · rw [same]
    exact sameDatagram_addressedFrame long mac interface

theorem drop_outgoingFrame (entries : ArpTable) (gw : UInt32) {packet : Bytes}
    (long : 34 ≤ packet.length) (interface : SrIf) :
    (outgoingFrame entries gw packet interface).drop sizeofEthernetHdr =
      packet.drop sizeofEthernetHdr := by
  obtain ⟨-, -, kept⟩ :=
    @sameDatagram_outgoingFrame ⟨fun _ => 0, fun _ => 0⟩ entries gw _ long interface
  apply List.ext_getElem?
  intro index
  rw [List.getElem?_drop, List.getElem?_drop, kept _ (Nat.le_add_right _ _)]

end Cmput313.Router
