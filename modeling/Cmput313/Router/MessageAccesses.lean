import Cmput313.Lib.Logged
import Cmput313.Router.EndOfStream

/-!
# The buffer of a message

`sr_read_from_server_expect` allocates as many bytes as the length word says, which may
be none, and then writes that word, exchanges the bytes of the next one and hands on a
frame whose length it computes as an `unsigned int`.
-/

set_option autoImplicit false

namespace Cmput313.Router

open Cmput313.Arrivals Cmput313.Bytes Cmput313.Program

/-! ## Names that are compared -/

/-- How many characters of its second argument `strncmp` looks at. -/
def strncmpReads : Nat → Name → Name → Nat
  | 0, _, _ => 0
  | limit + 1, left, right =>
      if left.headD 0 ≠ right.headD 0 ∨ left.headD 0 = 0 then 1
      else strncmpReads limit left.tail right.tail + 1

/-- For each comparison that `sr_get_interface` makes, the characters of the name. -/
def lookupReads : List SrIf → Name → List Nat
  | [], _ => []
  | walker :: rest, name =>
      strncmpReads srIfaceNamelen walker.name name ::
        if strncmpEq srIfaceNamelen walker.name name then [] else lookupReads rest name

theorem strncmpReads_le (limit : Nat) (left right : Name) :
    strncmpReads limit left right ≤ limit := by
  induction limit generalizing left right with
  | zero => exact Nat.le_refl _
  | succ limit inductionHypothesis =>
      rw [strncmpReads]
      split
      · exact Nat.succ_le_succ (Nat.zero_le _)
      · exact Nat.succ_le_succ (inductionHypothesis _ _)

/-- A comparison looks behind a field where all of the field begins the other name. -/
theorem lt_strncmpReads_iff {field : Name} (behind : Name) : ∀ {limit : Nat} (left : Name),
    field.length < limit →
    (field.length < strncmpReads limit left (field ++ behind) ↔ field <+: cString limit left) := by
  induction field with
  | nil =>
      intro limit left room
      cases limit with
      | zero => exact absurd room (Nat.lt_irrefl 0)
      | succ limit =>
          refine iff_of_true ?_ List.nil_prefix
          rw [strncmpReads]
          split
          · exact Nat.one_pos
          · exact Nat.succ_pos _
  | cons char field inductionHypothesis =>
      intro limit left room
      cases limit with
      | zero => exact absurd room (Nat.not_lt_zero _)
      | succ limit =>
          have smaller := Nat.lt_of_succ_lt_succ room
          rw [List.cons_append, strncmpReads, List.headD_cons, List.tail_cons]
          cases left with
          | nil => simp [cString]
          | cons first left =>
              rw [List.headD_cons, List.tail_cons]
              by_cases zero : first = 0
              · simp [zero, cString]
              · have string : cString (limit + 1) (first :: left) = first :: cString limit left := by
                  simp [cString, zero]
                rw [string, List.cons_prefix_cons]
                by_cases same : first = char
                · subst same
                  simp [zero, inductionHypothesis left smaller]
                · simp [same, Ne.symm same]

theorem zero_mem_of_strncmpEq {field behind left : Name} (short : field.length < srIfaceNamelen)
    (same : strncmpEq srIfaceNamelen left (field ++ behind) = true)
    (inside : ¬ field <+: cString srIfaceNamelen left) : 0 ∈ field := by
  by_contra noNul
  apply inside
  have equal : cString srIfaceNamelen left = cString srIfaceNamelen (field ++ behind) := by
    simpa [strncmpEq] using same
  have cut : (field ++ behind).take srIfaceNamelen =
      field ++ behind.take (srIfaceNamelen - field.length) := by
    rw [List.take_append, List.take_of_length_le (Nat.le_of_lt short)]
  rw [equal, cString, cut, List.takeWhile_append_of_pos (nonzero_of_noNul noNul)]
  exact List.prefix_append _ _

/-- All comparisons stay inside a field that is not the beginning of an interface's name.
Behind a match no further one is made, but then the field holds a NUL. -/
theorem lookupReads_le_iff {field : Name} (behind : Name)
    (short : field.length < srIfaceNamelen)
    (ifList : List SrIf) :
    (∀ reads ∈ lookupReads ifList (field ++ behind), reads ≤ field.length) ↔
      ∀ walker ∈ ifList, ¬ field <+: cString srIfaceNamelen walker.name := by
  have one : ∀ walker : SrIf,
      strncmpReads srIfaceNamelen walker.name (field ++ behind) ≤ field.length ↔
        ¬ field <+: cString srIfaceNamelen walker.name := by
    intro walker
    rw [← lt_strncmpReads_iff behind walker.name short, Nat.not_lt]
  induction ifList with
  | nil => simp [lookupReads]
  | cons walker rest inductionHypothesis =>
      rw [lookupReads, List.forall_mem_cons, List.forall_mem_cons, one]
      by_cases same : strncmpEq srIfaceNamelen walker.name (field ++ behind) = true
      · rw [if_pos same]
        refine and_congr_right fun inside => iff_of_true (by simp) ?_
        have zero := zero_mem_of_strncmpEq short same inside
        intro other _ isPrefix
        simpa using List.mem_takeWhile_imp (isPrefix.subset zero)
      · rw [if_neg same]
        exact and_congr_right fun _ => inductionHypothesis

/-! ## The call and its accesses -/

structure Watch where
  accesses : List (Nat × Nat)
  frameLengths : List UInt32

def Watch.touch (offset size : Nat) (watch : Watch) : Watch :=
  { watch with accesses := watch.accesses ++ [(offset, size)] }

/-- Pointer and length of the frame, for a function that may read all of it. -/
def Watch.hand (length : UInt32) (watch : Watch) : Watch where
  accesses := watch.accesses ++ [(sizeofPacketHeader, length.toNat)]
  frameLengths := watch.frameLengths ++ [length]

/-- The filter looks the interface up and gets the frame; behind it the length is read
again for the log, and `sr_handlepacket` gets the frame. -/
def watchPacket (memory : Memory) (message : Dispatch) (sr : SrInstance) (watch : Watch) :
    Watch :=
  let name := (packetCall memory message.buf message.len).interface
  let compared := (lookupReads sr.ifList name).foldl
    (fun watch reads => watch.touch sizeofBase reads) watch
  let filtered := compared.hand (frameLength message.len)
  match passedCall memory message.buf message.len sr with
  | .ok (some _) _ => (filtered.touch 0 4).hand (frameLength message.len)
  | _ => filtered

/-- `sr_read_from_server_expect` with its accesses to `buf`; of those in the branches of
the `switch`, the ones of `VNSPACKET`. -/
def watchedReadFromServerExpect (host : Host) (calls : Nat) (expectedCmd : UInt32) :
    EStateM Stop (Session × Watch) Int := do
  let lenBytes ← beside (readBytes calls 4)
  match lenBytes with
  | none => return -1
  | some lenBytes =>
      let mLen := ntohl (peek32 host.memory.fresh lenBytes 0)
      let len := toInt mLen
      if len > maxCommandLength ∨ len < 0 then
        beside closeSocket
        return -1
      else
        logs fun _ => Watch.touch 0 4
        -- every `read` has the room from where the last one ended
        logs fun _ => Watch.touch 4 (len - 4).toNat
        let body ← beside (readBytes calls (len - 4).toNat)
        match body with
        | none =>
            beside closeSocket
            return -1
        | some body =>
            let buf := bytes32 (htonl mLen) ++ body
            logs fun _ => Watch.touch 4 4
            let command := ntohl (peek32 host.memory.fresh buf 4)
            logs fun _ => Watch.touch 4 4
            let buf := put buf 4 (bytes32 command)
            if expectedCmd ≠ 0 ∧ command ≠ expectedCmd ∧ command ≠ vnsClose then
              return -1
            else
              logs fun session watch =>
                if command = vnsPacket then
                  watchPacket host.memory ⟨command, len, buf⟩ session.sr watch
                else watch
              beside (dispatch host ⟨command, len, buf⟩)

theorem erases_watchedReadFromServerExpect (host : Host) (calls : Nat)
    (expectedCmd : UInt32) :
    Erases (watchedReadFromServerExpect host calls expectedCmd)
      (srReadFromServerExpect host calls expectedCmd) := by
  refine erases_bind (erases_beside _) fun lenBytes => ?_
  cases lenBytes with
  | none => exact erases_pure _
  | some lenBytes =>
      refine erases_ite (erases_bind (erases_beside _) fun _ => erases_pure _) ?_
      refine erases_logs_then (erases_logs_then ?_)
      refine erases_bind (erases_beside _) fun body => ?_
      cases body with
      | none => exact erases_bind (erases_beside _) fun _ => erases_pure _
      | some body =>
          refine erases_logs_then (erases_logs_then ?_)
          exact erases_ite (erases_pure _) (erases_logs_then (erases_beside _))

/-- The accesses lie in the bytes that were allocated, and the frame length is what is
left of them behind the header. -/
def Watch.Inside (len : Int) (watch : Watch) : Prop :=
  (∀ access ∈ watch.accesses, access.2 = 0 ∨ access.1 + access.2 ≤ len.toNat) ∧
    ∀ length ∈ watch.frameLengths, (length.toNat : Int) = len - 24

def watched (host : Host) (calls : Nat) (expectedCmd : UInt32) (session : Session) : Watch :=
  (finalState (watchedReadFromServerExpect host calls expectedCmd) (session, ⟨[], []⟩)).2

/-- However many calls of `recv` and `read` are made. -/
def StaysInMessage (host : Host) (expectedCmd : UInt32) (session : Session) (len : Int) :
    Prop :=
  ∀ calls, (watched host calls expectedCmd session).Inside len

/-! ## Which lengths fit -/

def streamCommand (stream : Bytes) : UInt32 := ntohl (peek32 (fun _ => 0) stream 4)

/-- The length covers its own word, and once the message is there the command, the header
of a packet, and its interface name as far as it is compared. -/
def LengthFits (ifList : List SrIf) (expectedCmd : UInt32) (stream : Bytes) : Prop :=
  4 ≤ streamLength stream ∧
    (streamLength stream ≤ stream.length →
      8 ≤ streamLength stream ∧
        (streamCommand stream = vnsPacket → expectedCmd = 0 ∨ expectedCmd = vnsPacket →
          24 ≤ streamLength stream ∧
            (streamLength stream < 40 → ∀ walker ∈ ifList,
              ¬ (stream.take (streamLength stream).toNat).drop sizeofBase <+:
                cString srIfaceNamelen walker.name)))

instance (ifList : List SrIf) (expectedCmd : UInt32) (stream : Bytes) :
    Decidable (LengthFits ifList expectedCmd stream) :=
  inferInstanceAs (Decidable (_ ∧ (_ → _ ∧ (_ → _ → _ ∧ (_ → _)))))

section Inside

variable {len : Int}

@[simp] theorem inside_touch_iff {offset size : Nat} {watch : Watch} :
    (watch.touch offset size).Inside len ↔
      watch.Inside len ∧ (size = 0 ∨ offset + size ≤ len.toNat) := by
  simp only [Watch.Inside, Watch.touch, List.forall_mem_append, List.forall_mem_singleton]
  tauto

@[simp] theorem inside_hand_iff {length : UInt32} {watch : Watch} :
    (watch.hand length).Inside len ↔
      watch.Inside len ∧ (length.toNat : Int) = len - 24 := by
  simp only [Watch.Inside, Watch.hand, List.forall_mem_append, List.forall_mem_singleton,
    sizeofPacketHeader]
  constructor
  · rintro ⟨⟨earlier, _⟩, lengths, exact_⟩
    exact ⟨⟨earlier, lengths⟩, exact_⟩
  · rintro ⟨⟨earlier, lengths⟩, exact_⟩
    exact ⟨⟨earlier, Or.inr (by omega)⟩, lengths, exact_⟩

theorem inside_foldl_touch_iff {sizes : List Nat} : ∀ {watch : Watch},
    (sizes.foldl (fun watch reads => watch.touch sizeofBase reads) watch).Inside len ↔
      watch.Inside len ∧ ∀ reads ∈ sizes, reads = 0 ∨ sizeofBase + reads ≤ len.toNat := by
  induction sizes with
  | nil => simp
  | cons reads rest inductionHypothesis =>
      intro watch
      rw [List.foldl_cons, inductionHypothesis, inside_touch_iff, List.forall_mem_cons, and_assoc]

/-- The difference does not wrap around from 24 on. -/
theorem toNat_frameLength_eq_iff (accepted : 0 ≤ len) (short : len ≤ 10000) :
    ((frameLength len).toNat : Int) = len - 24 ↔ 24 ≤ len := by
  constructor
  · intro same
    omega
  · intro long
    obtain ⟨length, rfl⟩ : ∃ length : Nat, len = ((24 + length : Nat) : Int) :=
      ⟨(len - 24).toNat, by omega⟩
    rw [toNat_frameLength (by omega)]
    omega

/-! ## The `VNSPACKET` case -/

theorem mem_lookupReads_le {ifList : List SrIf} {name : Name} :
    ∀ reads ∈ lookupReads ifList name, reads ≤ srIfaceNamelen := by
  induction ifList with
  | nil => simp [lookupReads]
  | cons walker rest inductionHypothesis =>
      rw [lookupReads, List.forall_mem_cons]
      refine ⟨strncmpReads_le _ _ _, ?_⟩
      split
      · exact fun reads member => absurd member List.not_mem_nil
      · exact inductionHypothesis

/-- The name is compared inside the message, or behind a message that ends in the middle
of it. -/
theorem lookupReads_inside_iff (memory : Memory) {buf : Bytes} (ifList : List SrIf)
    (whole : (buf.length : Int) = len) (base : 8 ≤ len) :
    (∀ reads ∈ lookupReads ifList (packetCall memory buf len).interface,
        reads = 0 ∨ sizeofBase + reads ≤ len.toNat) ↔
      (len < 40 → ∀ walker ∈ ifList,
        ¬ buf.drop sizeofBase <+: cString srIfaceNamelen walker.name) := by
  have field : (buf.drop sizeofBase).length = len.toNat - 8 := by
    rw [List.length_drop, sizeofBase]
    omega
  by_cases short : len < 40
  · have room : (buf.drop sizeofBase).length < srIfaceNamelen := by
      rw [field, srIfaceNamelen]
      omega
    have name : (packetCall memory buf len).interface = buf.drop sizeofBase ++
        read (behindMessage memory) buf (sizeofBase + (buf.drop sizeofBase).length)
          (srIfaceNamelen - (buf.drop sizeofBase).length) := by
      have own : read (behindMessage memory) buf sizeofBase (buf.drop sizeofBase).length =
          buf.drop sizeofBase := by
        rw [read_of_le _ _ (by rw [List.length_drop, sizeofBase]; omega), List.take_length]
      have split := read_append (behindMessage memory) buf sizeofBase
        (buf.drop sizeofBase).length (srIfaceNamelen - (buf.drop sizeofBase).length)
      rw [own, Nat.add_sub_cancel' (Nat.le_of_lt room)] at split
      exact split
    rw [name, ← lookupReads_le_iff _ room ifList, field]
    constructor
    · intro inside _ reads member
      have bound := inside reads member
      simp only [sizeofBase] at bound
      omega
    · intro inside reads member
      have bound := inside short reads member
      simp only [sizeofBase]
      omega
  · refine iff_of_true (fun reads member => Or.inr ?_) fun shorter => absurd shorter short
    have bound := mem_lookupReads_le reads member
    simp only [sizeofBase, srIfaceNamelen] at bound ⊢
    omega

theorem inside_watchPacket {memory : Memory} {message : Dispatch} {sr : SrInstance}
    {watch : Watch} :
    (watchPacket memory message sr watch).Inside len ↔ watch.Inside len ∧
      (∀ reads ∈ lookupReads sr.ifList (packetCall memory message.buf message.len).interface,
        reads = 0 ∨ sizeofBase + reads ≤ len.toNat) ∧
      ((frameLength message.len).toNat : Int) = len - 24 := by
  unfold watchPacket
  split
  · rw [inside_hand_iff, inside_touch_iff, inside_hand_iff, inside_foldl_touch_iff]
    constructor
    · rintro ⟨⟨⟨⟨earlier, names⟩, exact_⟩, _⟩, _⟩
      exact ⟨earlier, names, exact_⟩
    · rintro ⟨earlier, names, exact_⟩
      exact ⟨⟨⟨⟨earlier, names⟩, exact_⟩, Or.inr (by omega)⟩, exact_⟩
  · rw [inside_hand_iff, inside_foldl_touch_iff, and_assoc]

end Inside

/-! ## The log of a call -/

section Log

variable {host : Host} {calls : Nat} {expectedCmd : UInt32} {session : Session}
  {stream : Bytes} {middle : Socket}

def watchedHead (len : Int) : Watch :=
  (Watch.touch 0 4 ⟨[], []⟩).touch 4 (len - 4).toNat

theorem watched_eq_iff {watch : Watch} :
    watched host calls expectedCmd session = watch ↔
      Ends (watchedReadFromServerExpect host calls expectedCmd) (session, ⟨[], []⟩)
        (fun _ next => next.2 = watch) (fun _ next => next.2 = watch) := by
  have final := @ends_iff_finalState _ _ _
    (watchedReadFromServerExpect host calls expectedCmd) (session, ⟨[], []⟩)
    (fun next => next.2 = watch)
  exact final.symm

theorem watched_of_blocked (blocks : fill calls 4 session.socket = none) :
    watched host calls expectedCmd session = ⟨[], []⟩ := by
  rw [watched_eq_iff, watchedReadFromServerExpect, ends_bind, ends_beside,
    ends_iff_of_error (readBytes_of_none blocks)]

section LengthWord

variable (long : 4 ≤ stream.length)
  (fills : fill calls 4 session.socket = some (some (stream.take 4), middle))
  (accepted : ¬ (streamLength stream > maxCommandLength ∨ streamLength stream < 0))

include long fills accepted

theorem watched_of_incomplete
    (blocks : fill calls (streamLength stream - 4).toNat middle = none) :
    watched host calls expectedCmd session = watchedHead (streamLength stream) := by
  have head := readBytes_of_fill fills
  have body : readBytes calls (streamLength stream - 4).toNat
      { session with socket := middle } =
        .error .reading { session with socket := middle } := readBytes_of_none blocks
  rw [watched_eq_iff, watchedReadFromServerExpect, ends_bind, ends_beside,
    ends_iff_of_ok head]
  simp only [toInt_take_four _ long, if_neg accepted, ends_bind, ends_logs, ends_beside,
    ends_iff_of_error body]
  rfl

theorem watched_of_complete {last : Socket}
    (tail : fill calls (streamLength stream - 4).toNat middle =
      some (some ((stream.drop 4).take (streamLength stream - 4).toNat), last))
    (there : streamLength stream ≤ stream.length) :
    ∃ buf command,
      (8 ≤ streamLength stream → (buf.length : Int) = streamLength stream ∧
        buf.drop sizeofBase = (stream.take (streamLength stream).toNat).drop sizeofBase ∧
        command = streamCommand stream) ∧
      watched host calls expectedCmd session =
        if expectedCmd ≠ 0 ∧ command ≠ expectedCmd ∧ command ≠ vnsClose then
          ((watchedHead (streamLength stream)).touch 4 4).touch 4 4
        else if command = vnsPacket then
          watchPacket host.memory ⟨command, streamLength stream, buf⟩ session.sr
            (((watchedHead (streamLength stream)).touch 4 4).touch 4 4)
        else ((watchedHead (streamLength stream)).touch 4 4).touch 4 4 := by
  have head := readBytes_of_fill fills
  have body : readBytes calls (streamLength stream - 4).toNat
      { session with socket := middle } =
        .ok (some ((stream.drop 4).take (streamLength stream - 4).toNat))
          { session with socket := last } := readBytes_of_fill tail
  have word : bytes32 (htonl (ntohl (peek32 host.memory.fresh (stream.take 4) 0))) =
      stream.take 4 := by
    rw [htonl, ntohl, swap32_swap32, bytes32_peek32 _ (by rw [List.length_take]; omega),
      List.drop_zero, List.take_take, Nat.min_self]
  have whole : stream.take 4 ++ (stream.drop 4).take (streamLength stream - 4).toNat =
      stream.take (4 + (streamLength stream - 4).toNat) := List.take_add.symm
  refine ⟨put (stream.take (4 + (streamLength stream - 4).toNat)) 4
      (bytes32 (ntohl (peek32 host.memory.fresh
        (stream.take (4 + (streamLength stream - 4).toNat)) 4))),
    ntohl (peek32 host.memory.fresh
      (stream.take (4 + (streamLength stream - 4).toNat)) 4), ?_, ?_⟩
  case refine_2 =>
    rw [watched_eq_iff, watchedReadFromServerExpect, ends_bind, ends_beside,
      ends_iff_of_ok head]
    simp only [toInt_take_four _ long, word, whole, if_neg accepted, ends_bind, ends_logs,
      ends_beside, ends_iff_of_ok body, ends_ite, ends_pure, ends_const, watchedHead]
    generalize ntohl (peek32 host.memory.fresh
      (stream.take (4 + (streamLength stream - 4).toNat)) 4) = command
    by_cases mismatch : expectedCmd ≠ 0 ∧ command ≠ expectedCmd ∧ command ≠ vnsClose
    · simp only [if_pos mismatch]
    · simp only [if_neg mismatch]
  intro base
  have count : 4 + (streamLength stream - 4).toNat = (streamLength stream).toNat := by omega
  rw [count]
  have length : (stream.take (streamLength stream).toNat).length =
      (streamLength stream).toNat := by
    rw [List.length_take]
    omega
  have fits : ∀ word : UInt32, 4 + (bytes32 word).length ≤
      (stream.take (streamLength stream).toNat).length := by
    intro word
    rw [bytes32_length, length]
    omega
  refine ⟨?_, ?_, ?_⟩
  · rw [put_length (fits _), length]
    omega
  · exact drop_put_behind (fits _) (by rw [bytes32_length]; decide)
  · rw [streamCommand]
    congr 1
    apply bytes32_injective
    rw [bytes32_peek32 _ (by rw [length]; omega), bytes32_peek32 _ (by omega), List.drop_take,
      List.take_take]
    congr 1
    omega

end LengthWord

end Log

/-! ## Exactly the lengths that fit -/

theorem inside_watchedHead_iff {len : Int} (accepted : 0 ≤ len) :
    (watchedHead len).Inside len ↔ 4 ≤ len := by
  simp only [watchedHead, inside_touch_iff]
  have empty : (⟨[], []⟩ : Watch).Inside len := by simp [Watch.Inside]
  constructor
  · rintro ⟨⟨_, word⟩, _⟩
    omega
  · intro long
    exact ⟨⟨empty, Or.inr (by omega)⟩, by omega⟩

theorem not_mismatch_packet_iff {expectedCmd : UInt32} :
    ¬ (expectedCmd ≠ 0 ∧ vnsPacket ≠ expectedCmd ∧ vnsPacket ≠ vnsClose) ↔
      expectedCmd = 0 ∨ expectedCmd = vnsPacket := by
  have other : vnsPacket ≠ vnsClose := by decide
  constructor
  · intro handled
    by_contra neither
    rw [not_or] at neither
    exact handled ⟨neither.1, Ne.symm neither.2, other⟩
  · rintro (rfl | rfl) ⟨nonzero, different, _⟩
    · exact nonzero rfl
    · exact different rfl

section Exact

variable {host : Host} {expectedCmd : UInt32} {session : Session} {stream : Bytes}
  (long : 4 ≤ stream.length)
  (accepted : 0 ≤ streamLength stream ∧ streamLength stream ≤ 10000)

include long accepted

theorem inside_complete_iff {calls : Nat} {middle last : Socket}
    (there : streamLength stream ≤ stream.length)
    (head : fill calls 4 session.socket = some (some (stream.take 4), middle))
    (tail : fill calls (streamLength stream - 4).toNat middle =
      some (some ((stream.drop 4).take (streamLength stream - 4).toNat), last)) :
    (watched host calls expectedCmd session).Inside (streamLength stream) ↔
      LengthFits session.sr.ifList expectedCmd stream := by
  have notRejected :
      ¬ (streamLength stream > maxCommandLength ∨ streamLength stream < 0) := by
    simp only [maxCommandLength]
    omega
  obtain ⟨buf, command, content, log⟩ := @watched_of_complete host _ expectedCmd _ _ _
    long head notRejected _ tail there
  rw [log, LengthFits]
  have words : (((watchedHead (streamLength stream)).touch 4 4).touch 4 4).Inside
      (streamLength stream) ↔ 8 ≤ streamLength stream := by
    rw [inside_touch_iff, inside_touch_iff, inside_watchedHead_iff accepted.1]
    omega
  by_cases base : 8 ≤ streamLength stream
  · obtain ⟨whole, name, rfl⟩ := content base
    have four : 4 ≤ streamLength stream := by omega
    simp only [four, base, there, true_and, true_implies]
    by_cases packet : streamCommand stream = vnsPacket
    · rw [packet]
      simp only [true_implies, if_true]
      split
      · rename_i mismatch
        refine iff_of_true (words.mpr base) fun handled => ?_
        exact absurd mismatch (not_mismatch_packet_iff.mpr handled)
      · rename_i handled
        have expected := not_mismatch_packet_iff.mp handled
        rw [inside_watchPacket, lookupReads_inside_iff host.memory _ whole base, words,
          toNat_frameLength_eq_iff accepted.1 accepted.2, name]
        constructor
        · rintro ⟨_, names, header⟩ _
          exact ⟨header, names⟩
        · intro fits
          exact ⟨base, (fits expected).2, (fits expected).1⟩
    · simp only [packet, if_false, ite_self, false_implies, iff_true]
      exact words.mpr base
  · have fails : ¬ (((watchedHead (streamLength stream)).touch 4 4).touch 4 4).Inside
        (streamLength stream) := fun inside => base (words.mp inside)
    refine iff_of_false ?_ fun fits => base (fits.2 there).1
    split
    · exact fails
    · split
      · exact fun inside => fails (inside_watchPacket.mp inside).1
      · exact fails

variable (opened : session.socket.shut = false)
  (delivers : delivered session.socket.arrivals = some stream)

include opened delivers

theorem lengthFits_of_staysInMessage
    (stays : StaysInMessage host expectedCmd session (streamLength stream)) :
    LengthFits session.sr.ifList expectedCmd stream := by
  have cut : stream = stream.take 4 ++ stream.drop 4 := (List.take_append_drop 4 stream).symm
  have head : (stream.take 4).length = 4 := by
    rw [List.length_take]
    omega
  have patient : session.socket.arrivals.length <
      session.socket.arrivals.length + stream.length + 1 := by omega
  obtain ⟨middle, fillsHead, middleDelivers, middleOpened, fewer⟩ :=
    fill_delivered opened (delivers.trans (congrArg some cut)) patient (by omega)
  rw [head] at fillsHead
  have inside := stays (session.socket.arrivals.length + stream.length + 1)
  by_cases there : streamLength stream ≤ stream.length
  · have tail : ((stream.drop 4).take (streamLength stream - 4).toNat).length =
        (streamLength stream - 4).toNat := by
      rw [List.length_take, List.length_drop]
      omega
    have tailCut := (List.take_append_drop (streamLength stream - 4).toNat
      (stream.drop 4)).symm
    obtain ⟨last, fillsTail, -, -, -⟩ := fill_delivered middleOpened
      (middleDelivers.trans (congrArg some tailCut)) (Nat.lt_of_le_of_lt fewer patient)
      (by rw [tail]; omega)
    rw [tail] at fillsTail
    exact (inside_complete_iff long accepted there fillsHead fillsTail).mp inside
  · refine ⟨?_, fun complete => absurd complete there⟩
    omega

theorem staysInMessage_of_lengthFits
    (fits : LengthFits session.sr.ifList expectedCmd stream) :
    StaysInMessage host expectedCmd session (streamLength stream) := by
  intro calls
  have notRejected :
      ¬ (streamLength stream > maxCommandLength ∨ streamLength stream < 0) := by
    simp only [maxCommandLength]
    omega
  cases fillsHead : fill calls 4 session.socket with
  | none =>
      rw [watched_of_blocked fillsHead]
      simp [Watch.Inside]
  | some head =>
      obtain ⟨word, middle⟩ := head
      obtain ⟨rfl, -, middleDelivers, middleOpened⟩ := fill_eq_some opened delivers fillsHead
      cases fillsTail : fill calls (streamLength stream - 4).toNat middle with
      | none =>
          rw [watched_of_incomplete long fillsHead notRejected fillsTail,
            inside_watchedHead_iff accepted.1]
          exact fits.1
      | some tail =>
          obtain ⟨body, last⟩ := tail
          obtain ⟨rfl, enough, -, -⟩ := fill_eq_some middleOpened middleDelivers fillsTail
          rw [List.length_drop] at enough
          have there : streamLength stream ≤ stream.length := by omega
          exact (inside_complete_iff long accepted there fillsHead fillsTail).mpr fits

/-- For an accepted length word the accesses to the buffer stay in its bytes, and the frame
length is no wrapped difference, exactly where the length fits the message. -/
theorem staysInMessage_iff_lengthFits :
    StaysInMessage host expectedCmd session (streamLength stream) ↔
      LengthFits session.sr.ifList expectedCmd stream :=
  ⟨lengthFits_of_staysInMessage long accepted opened delivers,
    staysInMessage_of_lengthFits long accepted opened delivers⟩

end Exact

def shortPacket : Bytes := [0, 0, 0, 8, 0, 0, 0, 4]

def sessionOf (arrivals : List Arrival) : Session := ⟨⟨arrivals, false, false⟩, [], smallNetwork⟩

theorem emptyBanner_staysInMessage :
    StaysInMessage quietHost 0 (sessionOf bannerArrivals)
        (streamLength (emptyBanner.bytes ++ emptyBanner.bytes)) ↔
      LengthFits (sessionOf bannerArrivals).sr.ifList 0 (emptyBanner.bytes ++ emptyBanner.bytes) :=
  staysInMessage_iff_lengthFits (by decide) (by decide) rfl (by decide)

theorem shortPacket_not_staysInMessage :
    ¬ StaysInMessage quietHost 0 (sessionOf [.piece 0 [0, 0, 8, 0, 0, 0, 4]])
      (streamLength shortPacket) := by
  intro stays
  have fits : LengthFits (sessionOf [.piece 0 [0, 0, 8, 0, 0, 0, 4]]).sr.ifList 0 shortPacket :=
    lengthFits_of_staysInMessage (by decide) (by decide) rfl (by decide) stays
  exact absurd fits (by decide)

end Cmput313.Router
