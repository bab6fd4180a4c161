import Cmput313.Router.QueueInvariant

/-!
# The three places that emit an IP frame

Forwarding, echo replies and ICMP errors build their frame without a look at the
ARP table and then share one tail.  `Prepares` says what such a program does up
to that tail, for every ARP table at once, so that the run that misses can be
compared with the run that hits.
-/

set_option autoImplicit false

namespace Cmput313.Router

open Cmput313.Bytes Cmput313.Program

/-- A call that emits at most one IP frame of its own. -/
inductive Emission where
  | forward (packet : Buf)
  | message (packet : Buf) (type code : UInt8)

def Emission.packet : Emission → Buf
  | .forward packet => packet
  | .message packet _ _ => packet

def Emission.program (memory : Memory) (handle : Nat → Sr Unit) :
    Emission → Sr Unit
  | .forward packet => srForwardIpPacket memory handle packet
  | .message packet type code => sendIcmpMsg memory handle packet type code

/-- The bytes that the tail hands to `sr_send_packet` for a gateway at `mac`. -/
def addressedFrame (packet : Bytes) (mac : Mac) (interface : SrIf) : Bytes :=
  put (put packet etherDhost mac.toList) etherShost interface.addr.toList

/-! ## The tail -/

theorem ends_sendOrQueue_hit {sr : SrInstance} {gw : UInt32} {arpEntry : SrArpentry}
    (hit : srArpcacheLookup sr.entries gw = some arpEntry) {packet : Buf}
    (long : 34 ≤ packet.bytes.length) (handle : Nat → Sr Unit) (interface : SrIf)
    (stopped : Fault → SrInstance → Prop) :
    Ends (sendOrQueue handle gw packet (some interface)) sr
      (fun _ next => next =
        (sr.accessed [⟨packet.tag, etherDhost, 6⟩, ⟨packet.tag, etherShost, 6⟩]).sendPacket
          (addressedFrame packet.bytes arpEntry.mac interface) interface.name) stopped := by
  have dhost : etherDhost + arpEntry.mac.toList.length ≤ packet.bytes.length := by
    rw [Vector.length_toList, etherDhost]; omega
  have shost : etherShost + interface.addr.toList.length ≤
      (put packet.bytes etherDhost arpEntry.mac.toList).length := by
    rw [put_length dhost, Vector.length_toList, etherShost]; omega
  simp only [sendOrQueue, ends_bind, ends_get, hit, ends_store, if_pos dhost,
    ends_dereference_some, if_pos shost, ends_pure]
  simp only [touched_eq_accessed, accessed_accessed, Vector.length_toList]
  exact ends_srSendPacket _ _ _ _ _ fun _ => rfl

theorem ends_sendOrQueue_none (sr : SrInstance) (handle : Nat → Sr Unit) (gw : UInt32)
    (packet : Buf) :
    Ends (sendOrQueue handle gw packet none) sr (fun _ next => next.trace = sr.trace)
      (fun _ next => next.trace = sr.trace) := by
  simp only [sendOrQueue, ends_bind, ends_get]
  cases srArpcacheLookup sr.entries gw with
  | none => rfl
  | some arpEntry =>
      simp only [ends_bind, ends_store, ends_dereference_none]
      split <;> rfl

theorem ends_sendOrQueue_miss {sr : SrInstance} {gw : UInt32}
    (miss : srArpcacheLookup sr.entries gw = none) {packet : Buf}
    (nonempty : packet.bytes.length ≠ 0) (handle : Nat → Sr Unit) (interface : SrIf)
    (returned : Unit → SrInstance → Prop) (stopped : Fault → SrInstance → Prop) :
    Ends (sendOrQueue handle gw packet (some interface)) sr returned stopped ↔
      Ends (handle (sr.withRequest gw).2)
        (sr.enqueue gw packet.bytes interface.name) returned stopped := by
  simp only [sendOrQueue, ends_bind, ends_get, miss, ends_dereference_some,
    ends_srArpcacheQueuereq _ _ nonempty]

/-! ## Up to the tail -/

def SrInstance.withEntries (sr : SrInstance) (entries : ArpTable) : SrInstance :=
  { sr with entries := entries }

/-- Only the two logs grew, and the trace by notes. -/
structure Noted (before after : SrInstance) : Prop where
  same : ∃ accesses, after =
    { before with trace := after.trace, accesses := before.accesses ++ accesses }
  trace : ∃ notes, after.trace = before.trace ++ notes ∧ ∀ event ∈ notes, event.IsNote

theorem Noted.refl (sr : SrInstance) : Noted sr sr :=
  ⟨⟨[], by simp⟩, [], by simp, by simp⟩

theorem Noted.ifList {before after : SrInstance} (noted : Noted before after) :
    after.ifList = before.ifList := by
  obtain ⟨_, same⟩ := noted.same
  rw [same]

theorem Noted.trans {first second third : SrInstance} (left : Noted first second)
    (right : Noted second third) : Noted first third := by
  obtain ⟨⟨leftAccesses, leftSame⟩, leftNotes, leftTrace, leftQuiet⟩ := left
  obtain ⟨⟨rightAccesses, rightSame⟩, rightNotes, rightTrace, rightQuiet⟩ := right
  refine ⟨⟨leftAccesses ++ rightAccesses, ?_⟩, leftNotes ++ rightNotes, ?_, ?_⟩
  · rw [rightSame, leftSame]
    simp
  · rw [rightTrace, leftTrace, List.append_assoc]
  · intro event member
    exact (List.mem_append.mp member).elim (leftQuiet event) (rightQuiet event)

theorem noted_touched (sr : SrInstance) (buf : Buf) (offset size : Nat) :
    Noted sr (sr.touched buf offset size) :=
  ⟨⟨[⟨buf.tag, offset, size⟩], rfl⟩, [], (List.append_nil _).symm, by simp⟩

theorem noted_accessed (sr : SrInstance) (accesses : List Access) :
    Noted sr (sr.accessed accesses) :=
  ⟨⟨accesses, rfl⟩, [], (List.append_nil _).symm, by simp⟩

theorem event_icmp_isNote (packet : Tag) (type code : UInt8) :
    (Event.icmp packet type code).IsNote := trivial

theorem noted_record (sr : SrInstance) {event : Event} (isNote : event.IsNote) :
    Noted sr (sr.record event) :=
  ⟨⟨[], by simp [SrInstance.record]⟩, [event], rfl, by simpa using isNote⟩

/-- From `sr`, but with any ARP table, the program stops or returns without an
emission, or comes to the shared tail with a frame and an interface of `ifList`
that do not depend on the table. -/
inductive Prepares (ifList : List SrIf) (sr : SrInstance)
    (program : (Nat → Sr Unit) → Sr Unit) : Prop where
  | drops (after : SrInstance) (noted : Noted sr after)
      (ends : ∀ handle entries,
        finalState (program handle) (sr.withEntries entries) =
          after.withEntries entries)
  | emits (after : SrInstance) (noted : Noted sr after) (gw : UInt32) (packet : Buf)
      (name : Name) (long : 34 ≤ packet.bytes.length)
      (tail : ∀ handle entries,
        program handle (sr.withEntries entries) =
          sendOrQueue handle gw packet (srGetInterface ifList name)
            (after.withEntries entries))

section Rules

variable {ifList : List SrIf} {sr : SrInstance} {α : Type} {rest : α → (Nat → Sr Unit) → Sr Unit}

theorem prepares_pure : Prepares ifList sr fun _ => pure () :=
  .drops sr (Noted.refl sr) fun _ _ => rfl

theorem prepares_tail (gw : UInt32) {packet : Buf} (name : Name)
    (long : 34 ≤ packet.bytes.length) :
    Prepares ifList sr fun handle =>
      sendOrQueue handle gw packet (srGetInterface ifList name) :=
  .emits sr (Noted.refl sr) gw packet name long fun _ _ => rfl

theorem prepares_bind {first : Sr α} {value : α} {middle : SrInstance}
    (noted : Noted sr middle)
    (runs : ∀ entries,
      first (sr.withEntries entries) = .ok value (middle.withEntries entries))
    (later : Prepares ifList middle fun handle => rest value handle) :
    Prepares ifList sr fun handle => first >>= fun value => rest value handle := by
  have continues : ∀ handle entries,
      (first >>= fun value => rest value handle) (sr.withEntries entries) =
        rest value handle (middle.withEntries entries) := by
    intro handle entries
    simp only [bind, EStateM.bind, runs]
  cases later with
  | drops after notedAfter ends =>
      refine .drops after (noted.trans notedAfter) fun handle entries => ?_
      rw [finalState, continues, ← finalState, ends]
  | emits after notedAfter gw packet name long tail =>
      refine .emits after (noted.trans notedAfter) gw packet name long ?_
      intro handle entries
      rw [continues, tail]

theorem prepares_stop {first : Sr α} {fault : Fault} {after : SrInstance}
    (noted : Noted sr after)
    (stops : ∀ entries,
      first (sr.withEntries entries) = .error fault (after.withEntries entries)) :
    Prepares ifList sr fun handle => first >>= fun value => rest value handle := by
  refine .drops after noted fun handle entries => ?_
  simp only [finalState, bind, EStateM.bind, stops]

theorem prepares_get {rest : SrInstance → (Nat → Sr Unit) → Sr Unit}
    (independent : ∀ entries, rest (sr.withEntries entries) = rest sr)
    (later : Prepares ifList sr fun handle => rest sr handle) :
    Prepares ifList sr fun handle => get >>= fun sr => rest sr handle := by
  have continues : ∀ handle entries,
      (get >>= fun sr => rest sr handle) (sr.withEntries entries) =
        rest sr handle (sr.withEntries entries) :=
    fun handle entries => congrFun (congrFun (independent entries) handle) _
  cases later with
  | drops after noted ends =>
      refine .drops after noted fun handle entries => ?_
      rw [finalState, continues, ← finalState, ends]
  | emits after noted gw packet name long tail =>
      exact .emits after noted gw packet name long fun handle entries =>
        (continues handle entries).trans (tail handle entries)

theorem prepares_log {event : Event} (isNote : event.IsNote)
    {rest : Unit → (Nat → Sr Unit) → Sr Unit}
    (later : Prepares ifList (sr.record event) fun handle => rest () handle) :
    Prepares ifList sr fun handle => log event >>= fun value => rest value handle :=
  prepares_bind (noted_record sr isNote) (fun _ => rfl) later

theorem prepares_touch {buf : Buf} {offset size : Nat}
    {rest : Unit → (Nat → Sr Unit) → Sr Unit}
    (later : Prepares ifList (sr.touched buf offset size) fun handle => rest () handle) :
    Prepares ifList sr fun handle => touch buf offset size >>= fun value => rest value handle :=
  prepares_bind (noted_touched sr buf offset size) (fun _ => rfl) later

variable {memory : Memory} {buf : Buf} {offset : Nat}

theorem prepares_load {size : Nat} {rest : Bytes → (Nat → Sr Unit) → Sr Unit}
    (later : Prepares ifList (sr.touched buf offset size) fun handle =>
      rest (read memory.beyond buf.bytes offset size) handle) :
    Prepares ifList sr fun handle =>
      load memory buf offset size >>= fun value => rest value handle :=
  prepares_bind (noted_touched sr buf offset size) (fun _ => rfl) later

theorem prepares_load8 {rest : UInt8 → (Nat → Sr Unit) → Sr Unit}
    (later : Prepares ifList (sr.touched buf offset 1) fun handle =>
      rest (peek memory.beyond buf.bytes offset) handle) :
    Prepares ifList sr fun handle =>
      load8 memory buf offset >>= fun value => rest value handle :=
  prepares_bind (noted_touched sr buf offset 1) (fun _ => rfl) later

theorem prepares_load16 {rest : UInt16 → (Nat → Sr Unit) → Sr Unit}
    (later : Prepares ifList (sr.touched buf offset 2) fun handle =>
      rest (peek16 memory.beyond buf.bytes offset) handle) :
    Prepares ifList sr fun handle =>
      load16 memory buf offset >>= fun value => rest value handle :=
  prepares_bind (noted_touched sr buf offset 2) (fun _ => rfl) later

theorem prepares_load32 {rest : UInt32 → (Nat → Sr Unit) → Sr Unit}
    (later : Prepares ifList (sr.touched buf offset 4) fun handle =>
      rest (peek32 memory.beyond buf.bytes offset) handle) :
    Prepares ifList sr fun handle =>
      load32 memory buf offset >>= fun value => rest value handle :=
  prepares_bind (noted_touched sr buf offset 4) (fun _ => rfl) later

/-- Of a stored buffer only its length matters up to the tail. -/
theorem prepares_store {bytes : Bytes} {rest : Buf → (Nat → Sr Unit) → Sr Unit}
    (later : offset + bytes.length ≤ buf.bytes.length →
      ∀ stored : Buf, stored.bytes.length = buf.bytes.length →
        Prepares ifList (sr.touched buf offset bytes.length) fun handle =>
          rest stored handle) :
    Prepares ifList sr fun handle =>
      store buf offset bytes >>= fun value => rest value handle := by
  have runs := fun entries => store_eq buf offset (sr.withEntries entries) bytes
  by_cases fits : offset + bytes.length ≤ buf.bytes.length
  · simp only [if_pos fits] at runs
    exact prepares_bind (noted_touched sr buf offset _) runs
      (later fits _ (put_length fits))
  · simp only [if_neg fits] at runs
    exact prepares_stop (noted_touched sr buf offset _) runs

theorem prepares_errorSource {packet : Buf} {code : UInt8} {interface : Option SrIf}
    {rest : UInt32 → (Nat → Sr Unit) → Sr Unit}
    (later : ∀ src middle, Noted sr middle →
      Prepares ifList middle fun handle => rest src handle) :
    Prepares ifList sr fun handle =>
      errorSource memory packet code interface >>= fun value => rest value handle := by
  unfold errorSource
  by_cases port : code = icmpDestUnreachablePort
  · simp only [if_pos port]
    exact prepares_load32 (later _ _ (noted_touched sr packet ipDst 4))
  · simp only [if_neg port]
    cases interface with
    | none => exact prepares_stop (Noted.refl sr) fun _ => rfl
    | some interface =>
        exact prepares_bind (Noted.refl sr) (fun _ => rfl) (later _ _ (Noted.refl sr))

end Rules

section Programs

variable {ifList : List SrIf} {sr : SrInstance} (memory : Memory)

theorem prepares_sendEchoReply (packet : Buf) (type code : UInt8) (rtEntry : SrRt) :
    Prepares ifList sr fun handle =>
      sendEchoReply memory handle packet type code rtEntry
        (srGetInterface ifList rtEntry.interface) := by
  refine prepares_store fun _ b1 same1 => ?_
  refine prepares_store fun _ b2 same2 => ?_
  refine prepares_load32 (prepares_load32 ?_)
  refine prepares_store fun long b3 same3 => ?_
  refine prepares_store fun _ b4 same4 => prepares_load8 ?_
  refine prepares_store fun _ b5 same5 => ?_
  refine prepares_store fun _ b6 same6 => ?_
  refine prepares_store fun _ b7 same7 => ?_
  refine prepares_load16 (prepares_load8 (prepares_load ?_))
  refine prepares_store fun _ b8 same8 => prepares_tail _ _ ?_
  -- the write to ip_dst shows that the frame holds a whole header
  have header : ipDst + 4 ≤ b2.bytes.length := long
  simp only [ipDst] at header
  omega

theorem prepares_sendIcmpError (packet : Buf) (type code : UInt8) (rtEntry : SrRt) :
    Prepares ifList sr fun handle =>
      sendIcmpError memory handle packet type code rtEntry
        (srGetInterface ifList rtEntry.interface) := by
  refine prepares_load8 (prepares_errorSource fun src middle noted => ?_)
  refine prepares_load32 (prepares_load ?_)
  refine prepares_tail _ _ ?_
  exact Nat.le_trans (by omega) (icmpErrorPacket_long memory _ _ _ _ _ _)

theorem prepares_sendIcmpMsg (same : sr.ifList = ifList) (packet : Buf)
    (type code : UInt8) :
    Prepares ifList sr fun handle => sendIcmpMsg memory handle packet type code := by
  refine prepares_log (event_icmp_isNote _ _ _) (prepares_touch (prepares_load32 ?_))
  refine prepares_get (fun _ => rfl) ?_
  simp only [SrInstance.touched, SrInstance.record, same]
  cases longestPrefixMatching sr.routingTable _ with
  | none => exact prepares_pure
  | some rtEntry =>
      by_cases echo : type = icmpTypeEchoReply
      · simp only [if_pos echo]
        exact prepares_sendEchoReply memory packet type code rtEntry
      · simp only [if_neg echo]
        by_cases error : type = icmpTypeTimeExceeded ∨ type = icmpTypeDestUnreachable
        · simp only [if_pos error]
          exact prepares_sendIcmpError memory packet type code rtEntry
        · simp only [if_neg error]
          exact prepares_pure

theorem prepares_srForwardIpPacket (same : sr.ifList = ifList) (packet : Buf)
    (long : 34 ≤ packet.bytes.length) :
    Prepares ifList sr fun handle => srForwardIpPacket memory handle packet := by
  refine prepares_touch (prepares_load16 ?_)
  refine prepares_store fun _ b1 same1 => prepares_load ?_
  by_cases bad : peek16 memory.beyond packet.bytes ipSum ≠
      cksum (read memory.beyond b1.bytes sizeofEthernetHdr sizeofIpHdr)
  · simp only [if_pos bad]
    exact prepares_pure
  · simp only [if_neg bad]
    refine prepares_load8 ?_
    by_cases expired : peek memory.beyond b1.bytes ipTtl ≤ 1
    · simp only [if_pos expired]
      exact prepares_sendIcmpMsg memory (by exact same) b1 _ _
    · simp only [if_neg expired]
      refine prepares_store fun _ b2 same2 => ?_
      refine prepares_store fun _ b3 same3 => prepares_load ?_
      refine prepares_store fun _ b4 same4 => prepares_load32 ?_
      refine prepares_get (fun _ => rfl) ?_
      simp only [SrInstance.touched, same]
      cases longestPrefixMatching sr.routingTable _ with
      | none => exact prepares_sendIcmpMsg memory (by rfl) b4 _ _
      | some routingTableEntry => exact prepares_tail _ _ (by omega)

theorem Emission.prepares (same : sr.ifList = ifList) (emission : Emission)
    (long : 34 ≤ emission.packet.bytes.length) :
    Prepares ifList sr fun handle => emission.program memory handle := by
  cases emission with
  | forward packet => exact prepares_srForwardIpPacket memory same packet long
  | message packet type code => exact prepares_sendIcmpMsg memory same packet type code

end Programs

end Cmput313.Router
