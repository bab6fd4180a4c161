import Mathlib.Tactic.Common

/-!
# Reading from a stream that arrives in pieces

A socket hands over bytes as they arrive, in pieces of any size, and a call that
reads may be interrupted instead.  `fill` reads up to a count of bytes with the two
loops that programs use for this; what it reads depends on the bytes alone, not on
how they arrive.
-/

set_option autoImplicit false

namespace Cmput313.Arrivals

inductive Arrival where
  | piece (first : UInt8) (others : List UInt8)
  | interrupt
  | failure
  deriving DecidableEq

def delivered : List Arrival → Option (List UInt8)
  | [] => some []
  | .piece first others :: rest => (delivered rest).map (first :: others ++ ·)
  | .interrupt :: rest => delivered rest
  | .failure :: _ => none

/-- `ended`: the other side closes the stream behind what arrives.  `shut`: this
side closed its descriptor. -/
structure Socket where
  arrivals : List Arrival
  ended : Bool
  shut : Bool
  deriving DecidableEq

/-- How a call returns: with bytes, none of them at the end of the stream, or with
-1 and `errno`. -/
inductive Received where
  | bytes (bytes : List UInt8)
  | interrupted
  | failed
  deriving DecidableEq

def putBack : List UInt8 → List Arrival → List Arrival
  | [], rest => rest
  | first :: others, rest => .piece first others :: rest

/-- `recv` or `read` with room for `count` bytes; `none` where the call blocks. -/
def recv (count : Nat) (socket : Socket) : Option (Received × Socket) :=
  if socket.shut then some (.failed, socket)
  else
    match socket.arrivals with
    | [] => if socket.ended then some (.bytes [], socket) else none
    | .piece first others :: rest =>
        some (.bytes ((first :: others).take count),
          { socket with arrivals := putBack ((first :: others).drop count) rest })
    | .interrupt :: rest => some (.interrupted, { socket with arrivals := rest })
    | .failure :: rest => some (.failed, { socket with arrivals := rest })

/-- The inner loop, `do … while (errno == EINTR)`, for at most `calls` calls.  The
outer `none` has not returned; the inner one is an error. -/
def receive (count : Nat) : Nat → Socket → Option (Option (List UInt8) × Socket)
  | 0, _ => none
  | calls + 1, socket =>
      match recv count socket with
      | none => none
      | some (.interrupted, next) => receive count calls next
      | some (.failed, next) => some (none, next)
      | some (.bytes bytes, next) => some (some bytes, next)

/-- The outer loop, `while (bytes_read < count)`, for at most as many passes. -/
def fillFrom (calls count : Nat) :
    Nat → List UInt8 → Socket → Option (Option (List UInt8) × Socket)
  | passes, bytesRead, socket =>
      if bytesRead.length < count then
        match passes with
        | 0 => none
        | passes + 1 =>
            match receive (count - bytesRead.length) calls socket with
            | none => none
            | some (none, next) => some (none, next)
            | some (some bytes, next) => fillFrom calls count passes (bytesRead ++ bytes) next
      else
        some (some bytesRead, socket)

def fill (calls count : Nat) (socket : Socket) : Option (Option (List UInt8) × Socket) :=
  fillFrom calls count calls [] socket

/-! ## What is delivered is read -/

theorem delivered_putBack (bytes : List UInt8) (rest : List Arrival) :
    delivered (putBack bytes rest) = (delivered rest).map (bytes ++ ·) := by
  cases bytes with
  | nil =>
      rw [putBack]
      cases delivered rest <;> rfl
  | cons first others => rfl

theorem length_putBack_le (bytes : List UInt8) (rest : List Arrival) :
    (putBack bytes rest).length ≤ rest.length + 1 := by
  cases bytes with
  | nil => exact Nat.le_succ _
  | cons first others => exact Nat.le_refl _

theorem receive_delivered (count : Nat) (room : 0 < count) {stream : List UInt8}
    (coming : stream ≠ []) : ∀ {calls : Nat} {socket : Socket},
      socket.shut = false → delivered socket.arrivals = some stream →
      socket.arrivals.length < calls →
      ∃ bytes later next, receive count calls socket = some (some bytes, next) ∧
        bytes ≠ [] ∧ bytes.length ≤ count ∧ stream = bytes ++ later ∧
        delivered next.arrivals = some later ∧ next.shut = false ∧
        next.arrivals.length ≤ socket.arrivals.length := by
  intro calls
  induction calls with
  | zero => exact fun _ _ patient => absurd patient (Nat.not_lt_zero _)
  | succ calls inductionHypothesis =>
      rintro ⟨arrivals, ended, shut⟩ opened delivers patient
      simp only at opened delivers patient
      subst opened
      cases arrivals with
      | nil => exact absurd (Option.some.inj delivers).symm coming
      | cons arrival rest =>
          cases arrival with
          | failure => simp [delivered] at delivers
          | interrupt =>
              have again := @inductionHypothesis ⟨rest, ended, false⟩ rfl delivers
                (Nat.lt_of_succ_lt_succ patient)
              obtain ⟨bytes, later, next, received, some_, fits, split, left, still, fewer⟩ := again
              exact ⟨bytes, later, next, received, some_, fits, split, left, still,
                Nat.le_succ_of_le fewer⟩
          | piece first others =>
              obtain ⟨behind, behindDelivered, whole⟩ := Option.map_eq_some_iff.mp delivers
              refine ⟨(first :: others).take count, (first :: others).drop count ++ behind,
                ⟨putBack ((first :: others).drop count) rest, ended, false⟩, rfl, ?_, ?_, ?_, ?_,
                rfl, length_putBack_le _ _⟩
              · obtain ⟨less, rfl⟩ := Nat.exists_eq_succ_of_ne_zero (Nat.ne_of_gt room)
                exact List.cons_ne_nil _ _
              · exact List.length_take_le _ _
              · rw [← List.append_assoc, List.take_append_drop, whole]
              · rw [delivered_putBack, behindDelivered]
                rfl

theorem fillFrom_delivered {calls count : Nat} (rest : List UInt8) :
    ∀ (passes : Nat) (bytesRead wanted : List UInt8) (socket : Socket),
      bytesRead.length + wanted.length = count → wanted.length ≤ passes →
      socket.shut = false → delivered socket.arrivals = some (wanted ++ rest) →
      socket.arrivals.length < calls →
      ∃ next, fillFrom calls count passes bytesRead socket =
          some (some (bytesRead ++ wanted), next) ∧
        delivered next.arrivals = some rest ∧ next.shut = false ∧
        next.arrivals.length ≤ socket.arrivals.length := by
  intro passes
  induction passes with
  | zero =>
      intro bytesRead wanted socket total short opened delivers _
      have none : wanted = [] := List.eq_nil_of_length_eq_zero (Nat.le_zero.mp short)
      subst none
      have done : ¬ bytesRead.length < count := by simp at total; omega
      rw [fillFrom, if_neg done, List.append_nil]
      exact ⟨socket, rfl, delivers, opened, Nat.le_refl _⟩
  | succ passes inductionHypothesis =>
      intro bytesRead wanted socket total short opened delivers patient
      rw [fillFrom]
      by_cases more : bytesRead.length < count
      · rw [if_pos more]
        have missing : wanted ≠ [] := by
          rintro rfl
          simp at total
          omega
        obtain ⟨bytes, later, next, received, some_, fits, split, left, still, fewer⟩ :=
          receive_delivered (count - bytesRead.length) (by omega)
            (List.append_ne_nil_of_left_ne_nil missing rest) opened delivers patient
        have positive : 0 < bytes.length := List.length_pos_iff.mpr some_
        have taken : bytes = wanted.take bytes.length := by
          have front := congrArg (List.take bytes.length) split
          rw [List.take_left, List.take_append_of_le_length (by omega)] at front
          exact front.symm
        have left_ : later = wanted.drop bytes.length ++ rest := by
          have back := congrArg (List.drop bytes.length) split
          rw [List.drop_left, List.drop_append_of_le_length (by omega)] at back
          exact back.symm
        have shorter : (wanted.drop bytes.length).length = wanted.length - bytes.length :=
          List.length_drop
        obtain ⟨last, fills, lastLeft, lastStill, lastFewer⟩ :=
          inductionHypothesis (bytesRead ++ bytes) (wanted.drop bytes.length) next
            (by rw [List.length_append, shorter]; omega) (by rw [shorter]; omega) still
            (left.trans (congrArg some left_)) (by omega)
        refine ⟨last, ?_, lastLeft, lastStill, Nat.le_trans lastFewer fewer⟩
        simp only [received, fills, List.append_assoc]
        rw [taken, List.length_take, Nat.min_eq_left (by omega), List.take_append_drop]
      · rw [if_neg more]
        have none : wanted = [] := List.eq_nil_of_length_eq_zero (by omega)
        subst none
        rw [List.append_nil]
        exact ⟨socket, rfl, delivers, opened, Nat.le_refl _⟩

theorem fill_delivered {calls : Nat} {wanted rest : List UInt8} {socket : Socket}
    (opened : socket.shut = false)
    (delivers : delivered socket.arrivals = some (wanted ++ rest))
    (patient : socket.arrivals.length < calls) (short : wanted.length ≤ calls) :
    ∃ next, fill calls wanted.length socket = some (some wanted, next) ∧
      delivered next.arrivals = some rest ∧ next.shut = false ∧
      next.arrivals.length ≤ socket.arrivals.length :=
  fillFrom_delivered rest calls [] wanted socket (Nat.zero_add _) short opened delivers patient

/-! ## Only what is delivered is read -/

theorem receive_eq_some {count : Nat} {result : Option (List UInt8)} {next : Socket} :
    ∀ {calls : Nat} {socket : Socket} {stream : List UInt8}, socket.shut = false →
      delivered socket.arrivals = some stream →
      receive count calls socket = some (result, next) →
      ∃ bytes later, result = some bytes ∧ bytes.length ≤ count ∧ stream = bytes ++ later ∧
        delivered next.arrivals = some later ∧ next.shut = false := by
  intro calls
  induction calls with
  | zero =>
      intro socket stream _ _ received
      simp [receive] at received
  | succ calls inductionHypothesis =>
      rintro ⟨arrivals, ended, shut⟩ stream opened delivers received
      simp only at opened delivers
      subst opened
      cases arrivals with
      | nil =>
          cases ended with
          | false => simp [receive, recv] at received
          | true =>
              simp only [receive, recv, Bool.false_eq_true, if_false, if_true, Option.some.injEq,
                Prod.mk.injEq] at received
              obtain ⟨rfl, rfl⟩ := received
              exact ⟨[], stream, rfl, Nat.zero_le _, rfl, delivers, rfl⟩
      | cons arrival rest =>
          cases arrival with
          | failure => simp [delivered] at delivers
          | interrupt => exact @inductionHypothesis ⟨rest, ended, false⟩ stream rfl delivers received
          | piece first others =>
              obtain ⟨behind, behindDelivered, whole⟩ := Option.map_eq_some_iff.mp delivers
              simp only [receive, recv, Bool.false_eq_true, if_false, Option.some.injEq,
                Prod.mk.injEq] at received
              obtain ⟨rfl, rfl⟩ := received
              refine ⟨_, (first :: others).drop count ++ behind, rfl, List.length_take_le _ _, ?_,
                ?_, rfl⟩
              · rw [← List.append_assoc, List.take_append_drop, whole]
              · rw [delivered_putBack, behindDelivered]
                rfl

theorem fillFrom_eq_some {calls count : Nat} {result : Option (List UInt8)} {next : Socket} :
    ∀ {passes : Nat} {bytesRead : List UInt8} {socket : Socket} {stream : List UInt8},
      bytesRead.length ≤ count → socket.shut = false →
      delivered socket.arrivals = some stream →
      fillFrom calls count passes bytesRead socket = some (result, next) →
      ∃ bytes later, result = some (bytesRead ++ bytes) ∧
        bytesRead.length + bytes.length = count ∧ stream = bytes ++ later ∧
        delivered next.arrivals = some later ∧ next.shut = false := by
  intro passes
  induction passes with
  | zero =>
      intro bytesRead socket stream fits opened delivers fills
      by_cases more : bytesRead.length < count
      · simp [fillFrom, more] at fills
      · simp only [fillFrom, if_neg more, Option.some.injEq, Prod.mk.injEq] at fills
        obtain ⟨rfl, rfl⟩ := fills
        exact ⟨[], stream, by rw [List.append_nil], by simp; omega, rfl, delivers, opened⟩
  | succ passes inductionHypothesis =>
      intro bytesRead socket stream fits opened delivers fills
      rw [fillFrom] at fills
      by_cases more : bytesRead.length < count
      · rw [if_pos more] at fills
        cases received : receive (count - bytesRead.length) calls socket with
        | none => simp [received] at fills
        | some returned =>
            obtain ⟨got, middle⟩ := returned
            obtain ⟨bytes, later, rfl, few, split, left, still⟩ :=
              receive_eq_some opened delivers received
            simp only [received] at fills
            have room : (bytesRead ++ bytes).length ≤ count := by
              rw [List.length_append]
              omega
            obtain ⟨others, behind, whole, total, laterSplit, behindLeft, stillOpen⟩ :=
              inductionHypothesis room still left fills
            rw [List.length_append] at total
            refine ⟨bytes ++ others, behind, ?_, ?_, ?_, behindLeft, stillOpen⟩
            · rw [whole, List.append_assoc]
            · rw [List.length_append]
              omega
            · rw [split, laterSplit, List.append_assoc]
      · simp only [if_neg more, Option.some.injEq, Prod.mk.injEq] at fills
        obtain ⟨rfl, rfl⟩ := fills
        exact ⟨[], stream, by rw [List.append_nil], by simp; omega, rfl, delivers, opened⟩

theorem fill_eq_some {calls count : Nat} {socket next : Socket} {stream : List UInt8}
    {result : Option (List UInt8)} (opened : socket.shut = false)
    (delivers : delivered socket.arrivals = some stream)
    (fills : fill calls count socket = some (result, next)) :
    result = some (stream.take count) ∧ count ≤ stream.length ∧
      delivered next.arrivals = some (stream.drop count) ∧ next.shut = false := by
  obtain ⟨bytes, later, whole, total, split, left, still⟩ :=
    fillFrom_eq_some (Nat.zero_le _) opened delivers fills
  simp only [List.length_nil, Nat.zero_add] at total
  subst total
  refine ⟨?_, ?_, ?_, still⟩
  · rw [whole, split, List.take_left, List.nil_append]
  · rw [split, List.length_append]
    omega
  · rw [left, split, List.drop_left]

end Cmput313.Arrivals
