import Mathlib.Data.List.TakeWhile
import Mathlib.Tactic.Common

/-!
# Messages with a terminator, read one to a piece

A sender ends each of its messages with a terminator; the stream arrives in pieces, and
the receiver takes every piece for one message: it reads what stands in front of the
first terminator, or the whole piece.  It hears what was sent just where each message
has pieces of its own, the first of which holds enough of it.
-/

set_option autoImplicit false

namespace Cmput313.Framing

variable {α β : Type}

def stream (stop : α) (sent : List (β × List α)) : List α :=
  (sent.map fun message => message.2 ++ [stop]).flatten

@[simp] theorem stream_nil (stop : α) : stream stop ([] : List (β × List α)) = [] := rfl

@[simp] theorem stream_cons (stop : α) (message : β × List α) (sent : List (β × List α)) :
    stream stop (message :: sent) = (message.2 ++ [stop]) ++ stream stop sent := rfl

variable [DecidableEq α] (stop : α)

def first (piece : List α) : List α := piece.takeWhile (· ≠ stop)

def heard (read : List α → Option β) (pieces : List (List α)) : List β :=
  pieces.filterMap fun piece => read (first stop piece)

/-- Each message has pieces of its own, and the first one holds enough of it. -/
inductive Aligned (Enough : β → List α → Prop) : List (β × List α) → List (List α) → Prop where
  | nil : Aligned Enough [] []
  | cons {command : β} {text piece : List α} {more later : List (List α)}
      {sent : List (β × List α)} (whole : piece ++ more.flatten = text ++ [stop])
      (enough : Enough command (first stop piece)) (rest : Aligned Enough sent later) :
      Aligned Enough ((command, text) :: sent) (piece :: (more ++ later))

/-- A message without the terminator that is understood as a whole, and not at all where
reading begins inside of it. -/
structure Proper (read : List α → Option β) (Enough : β → List α → Prop)
    (message : β × List α) : Prop where
  closed : stop ∉ message.2
  enough : ∀ part, part <+: message.2 → (read part = some message.1 ↔ Enough message.1 part)
  whole : read message.2 = some message.1
  inside : ∀ front part, front ≠ [] → front ++ part <+: message.2 → read part = none

/-- What is left of a message of which some was received. -/
def Residual (read : List α → Option β) (Enough : β → List α → Prop) (rest : List α) : Prop :=
  ∃ message front, Proper stop read Enough message ∧ front ≠ [] ∧
    message.2 ++ [stop] = front ++ rest

variable {stop} {read : List α → Option β} {Enough : β → List α → Prop}
  {sent : List (β × List α)} {pieces : List (List α)}

theorem first_append {text : List α} (closed : stop ∉ text) (rest : List α) :
    first stop (text ++ stop :: rest) = text := by
  rw [first, List.takeWhile_append_of_pos]
  · simp
  · intro char member
    simp only [decide_eq_true_eq]
    rintro rfl
    exact closed member

theorem first_prefix {piece whole : List α} (front : piece <+: whole) :
    first stop piece <+: first stop whole := by
  obtain ⟨rest, rfl⟩ := front
  induction piece with
  | nil => exact List.nil_prefix
  | cons char piece inductionHypothesis =>
      by_cases ends : char = stop
      · simp [first, ends]
      · simp only [first, List.cons_append, ne_eq, ends, not_false_eq_true, decide_true,
          List.takeWhile_cons_of_pos]
        exact List.cons_prefix_cons.mpr ⟨rfl, inductionHypothesis⟩

/-! ## One piece -/

theorem first_prefix_of_starts {text piece rest back : List α} (closed : stop ∉ text)
    (split : piece ++ rest = (text ++ [stop]) ++ back) : first stop piece <+: text := by
  have front : piece <+: text ++ stop :: back := ⟨rest, by simp [split]⟩
  have part : first stop piece <+: first stop (text ++ stop :: back) := first_prefix front
  rwa [first_append closed] at part

theorem read_residual {residual piece rest back : List α}
    (left : Residual stop read Enough residual) (some_ : residual ≠ [])
    (split : piece ++ rest = residual ++ back) : read (first stop piece) = none := by
  obtain ⟨message, front, proper, begun, whole⟩ := left
  rcases List.eq_nil_or_concat residual with none | ⟨inner, last, residualIs⟩
  · exact absurd none some_
  · rw [residualIs, List.concat_eq_append, ← List.append_assoc] at whole
    obtain ⟨text, lastIs⟩ := List.append_inj' whole rfl
    obtain rfl : stop = last := by simpa using lastIs
    have closed : stop ∉ inner := fun member =>
      proper.closed (text ▸ List.mem_append_right _ member)
    rw [residualIs, List.concat_eq_append] at split
    obtain ⟨later, innerIs⟩ := first_prefix_of_starts closed split
    refine proper.inside front _ begun ⟨later, ?_⟩
    rw [List.append_assoc, innerIs, text]

omit [DecidableEq α] in
/-- What is left behind some bytes of the stream: the rest of a message of which some
was received, and whole messages. -/
theorem exists_residual (proper : ∀ message ∈ sent, Proper stop read Enough message)
    {received rest : List α} (some_ : received ≠ [])
    (split : received ++ rest = stream stop sent) :
    ∃ residual later, Residual stop read Enough residual ∧ rest = residual ++ stream stop later ∧
      later <:+ sent ∧ later.length < sent.length := by
  induction sent generalizing received with
  | nil =>
      rw [stream_nil, List.append_eq_nil_iff] at split
      exact absurd split.1 some_
  | cons message sent inductionHypothesis =>
      have later := fun other member => proper other (List.mem_cons_of_mem _ member)
      have here := proper message (List.mem_cons_self ..)
      rw [stream_cons] at split
      rcases List.append_eq_append_iff.mp split with ⟨inner, ends, behind⟩ |
        ⟨inner, receivedIs, behind⟩
      · exact ⟨inner, sent, ⟨message, received, here, some_, ends⟩, behind,
          List.suffix_cons _ _, Nat.lt_succ_self _⟩
      · by_cases more : inner = []
        · subst more
          rw [List.append_nil] at receivedIs
          exact ⟨[], sent, ⟨message, received, here, some_, by rw [receivedIs, List.append_nil]⟩,
            behind.symm, List.suffix_cons _ _, Nat.lt_succ_self _⟩
        · obtain ⟨residual, others, left, restIs, suffix_, fewer⟩ :=
            inductionHypothesis later more behind.symm
          exact ⟨residual, others, left, restIs, suffix_.trans (List.suffix_cons _ _),
            Nat.lt_succ_of_lt fewer⟩

omit [DecidableEq α] in
theorem Residual.of_append {piece inner : List α}
    (left : Residual stop read Enough (piece ++ inner)) : Residual stop read Enough inner := by
  obtain ⟨message, front, proper, begun, whole⟩ := left
  refine ⟨message, front ++ piece, proper, List.append_ne_nil_of_left_ne_nil begun _, ?_⟩
  rw [whole, List.append_assoc]

/-- What arrives in the pieces: the rest of a message, perhaps, and whole messages. -/
structure Arrives (stop : α) (read : List α → Option β) (Enough : β → List α → Prop)
    (residual : List α) (sent : List (β × List α)) (pieces : List (List α)) : Prop where
  proper : ∀ message ∈ sent, Proper stop read Enough message
  some_ : ∀ piece ∈ pieces, piece ≠ []
  left : residual ≠ [] → Residual stop read Enough residual
  split : pieces.flatten = residual ++ stream stop sent

section Arrives

variable {residual piece : List α} {rest : List (List α)}

theorem Arrives.silent (arrives : Arrives stop read Enough residual sent (piece :: rest))
    (inside : residual ≠ []) : read (first stop piece) = none :=
  read_residual (arrives.left inside) inside arrives.split

omit [DecidableEq α] in
theorem Arrives.rest_of {inner : List α} {later : List (β × List α)}
    (arrives : Arrives stop read Enough residual sent (piece :: rest)) (among : later <:+ sent)
    (left : Residual stop read Enough inner) (split : rest.flatten = inner ++ stream stop later) :
    Arrives stop read Enough inner later rest where
  proper := fun other member => arrives.proper other (among.subset member)
  some_ := fun other member => arrives.some_ other (List.mem_cons_of_mem _ member)
  left := fun _ => left
  split := split

/-- A piece stays inside a message of which some was received; or it begins a message and
stays inside of it; or a message begins inside of the piece and is not heard. -/
theorem Arrives.next (arrives : Arrives stop read Enough residual sent (piece :: rest)) :
    (residual ≠ [] ∧ ∃ inner, residual = piece ++ inner ∧
      Arrives stop read Enough inner sent rest) ∨
    (residual = [] ∧ ∃ message later inner, sent = message :: later ∧
      message.2 ++ [stop] = piece ++ inner ∧ Arrives stop read Enough inner later rest) ∨
    ∃ inner later, later <:+ sent ∧ Arrives stop read Enough inner later rest ∧
      (read (first stop piece)).toList.length + later.length < sent.length := by
  have nonempty := arrives.some_ piece (List.mem_cons_self ..)
  have split := arrives.split
  have one := Option.length_toList_le (o := read (first stop piece))
  rw [List.flatten_cons] at split
  by_cases starts : residual = []
  · subst starts
    rw [List.nil_append] at split
    cases sent with
    | nil =>
        rw [stream_nil, List.append_eq_nil_iff] at split
        exact absurd split.1 nonempty
    | cons message sent =>
        have here := arrives.proper message (List.mem_cons_self ..)
        have others := fun other member => arrives.proper other (List.mem_cons_of_mem _ member)
        have tail := List.suffix_cons message sent
        rw [stream_cons] at split
        rcases List.append_eq_append_iff.mp split with ⟨inner, ends, behind⟩ |
          ⟨inner, pieceIs, behind⟩
        · exact Or.inr (Or.inl ⟨rfl, message, sent, inner, rfl, ends,
            arrives.rest_of tail ⟨message, piece, here, nonempty, ends⟩ behind⟩)
        · by_cases more : inner = []
          · subst more
            rw [List.append_nil] at pieceIs
            have ends : message.2 ++ [stop] = piece ++ [] := by rw [pieceIs, List.append_nil]
            exact Or.inr (Or.inl ⟨rfl, message, sent, [], rfl, ends,
              arrives.rest_of tail ⟨message, piece, here, nonempty, ends⟩ behind.symm⟩)
          · obtain ⟨lost, later, left, restIs, among, fewer⟩ :=
              exists_residual others more behind.symm
            have within := among.trans tail
            refine Or.inr (Or.inr ⟨lost, later, within, arrives.rest_of within left restIs, ?_⟩)
            rw [List.length_cons]
            omega
  · have left := arrives.left starts
    rcases List.append_eq_append_iff.mp split with ⟨inner, ends, behind⟩ |
      ⟨inner, pieceIs, behind⟩
    · rw [ends] at left
      exact Or.inl ⟨starts, inner, ends,
        arrives.rest_of List.suffix_rfl left.of_append behind⟩
    · by_cases more : inner = []
      · subst more
        have ends : residual = piece ++ [] := by rw [pieceIs, List.append_nil, List.append_nil]
        rw [ends] at left
        exact Or.inl ⟨starts, [], ends,
          arrives.rest_of List.suffix_rfl left.of_append behind.symm⟩
      · obtain ⟨lost, later, lostLeft, restIs, among, fewer⟩ :=
          exists_residual arrives.proper more behind.symm
        refine Or.inr (Or.inr ⟨lost, later, among, arrives.rest_of among lostLeft restIs, ?_⟩)
        rw [arrives.silent starts]
        simpa using fewer

end Arrives

/-! ## All pieces -/

theorem heard_cons (piece : List α) (pieces : List (List α)) :
    heard stop read (piece :: pieces) =
      (read (first stop piece)).toList ++ heard stop read pieces := by
  rw [heard, List.filterMap_cons]
  cases read (first stop piece) <;> rfl

theorem length_heard_le : ∀ {sent : List (β × List α)} {residual : List α},
    Arrives stop read Enough residual sent pieces →
    (heard stop read pieces).length ≤ sent.length := by
  induction pieces with
  | nil => exact fun _ => Nat.zero_le _
  | cons piece rest inductionHypothesis =>
      intro sent residual arrives
      rw [heard_cons, List.length_append]
      rcases arrives.next with ⟨inside, inner, -, later⟩ |
        ⟨-, message, others, inner, rfl, -, later⟩ | ⟨inner, others, -, later, fewer⟩
      · have few := inductionHypothesis later
        rw [arrives.silent inside]
        simpa using few
      · have few := inductionHypothesis later
        have one := Option.length_toList_le (o := read (first stop piece))
        rw [List.length_cons]
        omega
      · have few := inductionHypothesis later
        omega

theorem aligned_of_heard : ∀ {sent : List (β × List α)} {residual : List α},
    Arrives stop read Enough residual sent pieces →
    heard stop read pieces = sent.map Prod.fst →
    ∃ more later, pieces = more ++ later ∧ more.flatten = residual ∧
      Aligned stop Enough sent later := by
  induction pieces with
  | nil =>
      intro sent residual arrives hears
      cases sent with
      | nil =>
          have split := arrives.split
          rw [stream_nil, List.append_nil, List.flatten_nil] at split
          exact ⟨[], [], rfl, split, .nil⟩
      | cons message others => cases hears
  | cons piece rest inductionHypothesis =>
      intro sent residual arrives hears
      rw [heard_cons] at hears
      rcases arrives.next with ⟨inside, inner, rfl, later⟩ |
        ⟨rfl, message, others, inner, rfl, whole, later⟩ | ⟨inner, others, -, later, fewer⟩
      · rw [arrives.silent inside] at hears
        obtain ⟨more, back, restParts, innerIs, aligned⟩ := inductionHypothesis later hears
        refine ⟨piece :: more, back, ?_, ?_, aligned⟩
        · rw [restParts, List.cons_append]
        · rw [List.flatten_cons, innerIs]
      · have here := arrives.proper message (List.mem_cons_self ..)
        have few := length_heard_le later
        cases understood : read (first stop piece) with
        | none =>
            rw [understood, Option.toList_none, List.nil_append] at hears
            rw [hears, List.length_map, List.length_cons] at few
            omega
        | some command =>
            rw [understood, Option.toList_some, List.map_cons, List.singleton_append] at hears
            obtain ⟨rfl, hearsRest⟩ := List.cons.inj hears
            obtain ⟨more, back, restParts, innerIs, aligned⟩ := inductionHypothesis later hearsRest
            have part := first_prefix_of_starts here.closed
              (show piece ++ inner = (message.2 ++ [stop]) ++ [] by
                rw [List.append_nil, whole])
            refine ⟨[], piece :: rest, rfl, rfl, ?_⟩
            rw [restParts]
            refine .cons ?_ ((here.enough _ part).mp understood) aligned
            rw [innerIs, whole]
      · have few := length_heard_le later
        have all := congrArg List.length hears
        rw [List.length_append, List.length_map] at all
        omega

theorem heard_of_aligned (aligned : Aligned stop Enough sent pieces)
    (proper : ∀ message ∈ sent, Proper stop read Enough message)
    (some_ : ∀ piece ∈ pieces, piece ≠ []) :
    heard stop read pieces = sent.map Prod.fst := by
  induction aligned with
  | nil => rfl
  | @cons command text piece more later sent whole enough rest inductionHypothesis =>
      have here := proper _ (List.mem_cons_self ..)
      have part := first_prefix_of_starts here.closed
        (show piece ++ more.flatten = (text ++ [stop]) ++ [] by rw [List.append_nil, whole])
      have understood := (here.enough _ part).mpr enough
      have begun : Residual stop read Enough more.flatten :=
        ⟨(command, text), piece, here, some_ piece (List.mem_cons_self ..), whole.symm⟩
      have inside : Arrives stop read Enough more.flatten [] more :=
        ⟨fun _ member => absurd member List.not_mem_nil,
          fun other member => some_ other
            (List.mem_cons_of_mem _ (List.mem_append_left _ member)),
          fun _ => begun, by rw [stream_nil, List.append_nil]⟩
      have silent := List.eq_nil_of_length_eq_zero (Nat.le_zero.mp (length_heard_le inside))
      have others := inductionHypothesis
        (fun other member => proper other (List.mem_cons_of_mem _ member))
        fun other member => some_ other (List.mem_cons_of_mem _ (List.mem_append_right _ member))
      have parts : heard stop read (more ++ later) = heard stop read more ++ heard stop read later :=
        List.filterMap_append
      rw [heard_cons, understood, parts, silent, others]
      rfl

theorem aligned_whole (proper : ∀ message ∈ sent, Proper stop read Enough message) :
    Aligned stop Enough sent (sent.map fun message => message.2 ++ [stop]) := by
  induction sent with
  | nil => exact .nil
  | cons message others inductionHypothesis =>
      have here := proper message (List.mem_cons_self ..)
      have rest := inductionHypothesis fun other member =>
        proper other (List.mem_cons_of_mem _ member)
      have tells := (here.enough _ List.prefix_rfl).mp here.whole
      rw [← first_append here.closed []] at tells
      have whole : (message.2 ++ [stop]) ++ ([] : List (List α)).flatten = message.2 ++ [stop] :=
        List.append_nil _
      exact .cons whole tells rest

section Start

variable (proper : ∀ message ∈ sent, Proper stop read Enough message)
  (some_ : ∀ piece ∈ pieces, piece ≠ []) (segments : pieces.flatten = stream stop sent)

include proper some_ segments

omit [DecidableEq α] in
theorem arrives_start : Arrives stop read Enough [] sent pieces :=
  ⟨proper, some_, fun absent => absurd rfl absent, segments⟩

theorem heard_eq_iff :
    heard stop read pieces = sent.map Prod.fst ↔ Aligned stop Enough sent pieces := by
  constructor
  · intro hears
    obtain ⟨more, later, parts, none, aligned⟩ :=
      aligned_of_heard (arrives_start proper some_ segments) hears
    have empty : more = [] := by
      by_contra someMore
      obtain ⟨piece, rest, moreIs⟩ := List.exists_cons_of_ne_nil someMore
      rw [moreIs, List.flatten_cons, List.append_eq_nil_iff] at none
      refine some_ piece ?_ none.1
      rw [parts, moreIs]
      exact List.mem_cons_self ..
    rw [parts, empty]
    exact aligned
  · exact fun aligned => heard_of_aligned aligned proper some_

end Start

theorem exists_of_mem_heard {command : β} : ∀ {sent : List (β × List α)} {residual : List α},
    Arrives stop read Enough residual sent pieces → command ∈ heard stop read pieces →
    ∃ message ∈ sent, ∃ part, part <+: message.2 ∧ read part = some command := by
  induction pieces with
  | nil => exact fun _ member => absurd member List.not_mem_nil
  | cons piece rest inductionHypothesis =>
      intro sent residual arrives member
      rw [heard_cons, List.mem_append, Option.mem_toList] at member
      rcases member with here | behind
      · by_cases starts : residual = []
        · subst starts
          have split := arrives.split
          rw [List.flatten_cons, List.nil_append] at split
          cases sent with
          | nil =>
              rw [stream_nil, List.append_eq_nil_iff] at split
              exact absurd split.1 (arrives.some_ piece (List.mem_cons_self ..))
          | cons message others =>
              have closed := (arrives.proper message (List.mem_cons_self ..)).closed
              exact ⟨message, List.mem_cons_self .., _,
                first_prefix_of_starts closed split, here⟩
        · rw [arrives.silent starts] at here
          cases here
      · rcases arrives.next with ⟨-, inner, -, later⟩ |
          ⟨-, message, others, inner, rfl, -, later⟩ | ⟨inner, others, among, later, -⟩
        · exact inductionHypothesis later behind
        · obtain ⟨other, found, reads⟩ := inductionHypothesis later behind
          exact ⟨other, List.mem_cons_of_mem _ found, reads⟩
        · obtain ⟨other, found, reads⟩ := inductionHypothesis later behind
          exact ⟨other, among.subset found, reads⟩

end Cmput313.Framing
