import Cmput313.Lib.Pieces
import Mathlib.Data.List.Induction

/-!
# Hashes that work block by block

A text is processed in blocks of a fixed size, from a first state on.  Where it arrives
character by character, what does not fill a block waits for more; the text may be cut
anywhere.
-/

set_option autoImplicit false

namespace Cmput313.BlockHash

open Cmput313.Pieces

variable {State α : Type} (size : Nat) (process : State → List α → State)

def digest (state : State) (text : List α) : State :=
  (cut size text (text.length / size)).foldl process state

def feed (current : State × List α) (char : α) : State × List α :=
  let block := current.2 ++ [char]
  if block.length = size then (process current.1 block, []) else (current.1, block)

def absorb (current : State × List α) (text : List α) : State × List α :=
  text.foldl (feed size process) current

variable {size process} {state : State} {waiting text : List α}

@[simp] theorem absorb_nil (current : State × List α) : absorb size process current [] = current :=
  rfl

theorem absorb_append (current : State × List α) (first second : List α) :
    absorb size process current (first ++ second) =
      absorb size process (absorb size process current first) second :=
  List.foldl_append ..

theorem absorb_of_lt (short : waiting.length + text.length < size) :
    absorb size process (state, waiting) text = (state, waiting ++ text) := by
  induction text generalizing waiting with
  | nil => rw [absorb_nil, List.append_nil]
  | cons char rest inductionHypothesis =>
      rw [List.length_cons] at short
      have open_ : (waiting ++ [char]).length ≠ size := by
        rw [List.length_append, List.length_singleton]
        omega
      have next : feed size process (state, waiting) char = (state, waiting ++ [char]) :=
        if_neg open_
      have later := @inductionHypothesis (waiting ++ [char])
        (by rw [List.length_append, List.length_singleton]; omega)
      rw [List.append_assoc, List.singleton_append] at later
      rw [← later, absorb, List.foldl_cons, next, absorb]

theorem absorb_of_eq (some_ : text ≠ []) (full : waiting.length + text.length = size) :
    absorb size process (state, waiting) text = (process state (waiting ++ text), []) := by
  obtain ⟨front, last, rfl⟩ := (List.eq_nil_or_concat text).resolve_left some_
  rw [List.concat_eq_append] at full ⊢
  rw [List.length_append, List.length_singleton] at full
  have closes : ((waiting ++ front) ++ [last]).length = size := by
    simp only [List.length_append, List.length_singleton]
    omega
  have short : waiting.length + front.length < size := by omega
  rw [absorb_append, absorb_of_lt short, ← List.append_assoc]
  exact if_pos closes

theorem cut_append {count : Nat} (inside : count * size ≤ text.length) (more : List α) :
    cut size (text ++ more) count = cut size text count := by
  refine List.map_congr_left fun i member => ?_
  have before : (i + 1) * size ≤ count * size :=
    Nat.mul_le_mul_right _ (List.mem_range.mp member)
  rw [Nat.succ_mul] at before
  rw [List.drop_append_of_le_length (by omega), List.take_append_of_le_length]
  rw [List.length_drop]
  omega

theorem digest_of_lt (short : text.length < size) : digest size process state text = state := by
  rw [digest, Nat.div_eq_of_lt short]
  rfl

/-- Whatever was absorbed, the state is that behind its whole blocks, and the rest waits. -/
theorem absorb_eq (positive : 0 < size) (text : List α) :
    absorb size process (state, []) text =
      (digest size process state text, text.drop (text.length / size * size)) := by
  induction text using List.reverseRecOn with
  | nil => rw [absorb_nil, digest_of_lt positive, List.drop_nil]
  | append_singleton text char inductionHypothesis =>
      have quotient := Nat.div_add_mod text.length size
      have low := Nat.mod_lt text.length positive
      have whole : text.length / size * size ≤ text.length := Nat.div_mul_le_self ..
      rw [Nat.mul_comm] at quotient
      have waits : (text.drop (text.length / size * size)).length = text.length % size := by
        rw [List.length_drop]
        omega
      rw [absorb_append, inductionHypothesis]
      by_cases fills : text.length % size + 1 = size
      · have count : (text ++ [char]).length / size = text.length / size + 1 := by
          rw [List.length_append, List.length_singleton]
          refine Nat.div_eq_of_lt_le ?_ ?_
          · rw [Nat.succ_mul]
            omega
          · rw [Nat.succ_mul, Nat.succ_mul]
            omega
        have ends : (text ++ [char]).drop (text.length / size * size) =
            text.drop (text.length / size * size) ++ [char] :=
          List.drop_append_of_le_length whole
        have last : ((text.drop (text.length / size * size)) ++ [char]).length = size := by
          rw [List.length_append, waits, List.length_singleton, fills]
        rw [absorb_of_eq (List.cons_ne_nil _ _) (by rw [waits]; exact fills), digest, digest, count,
          cut_succ, List.foldl_append, cut_append whole, ends, List.take_of_length_le (Nat.le_of_eq last),
          Nat.succ_mul, ← List.drop_drop, ends, List.drop_eq_nil_of_le (Nat.le_of_eq last)]
        rfl
      · have count : (text ++ [char]).length / size = text.length / size := by
          rw [List.length_append, List.length_singleton]
          refine Nat.div_eq_of_lt_le (by omega) ?_
          rw [Nat.succ_mul]
          omega
        rw [absorb_of_lt (by rw [waits, List.length_singleton]; omega), digest, digest, count,
          cut_append whole, List.drop_append_of_le_length whole]

theorem digest_append (positive : 0 < size) (text more : List α) :
    digest size process state (text ++ more) =
      (absorb size process (absorb size process (state, []) text) more).1 := by
  rw [← absorb_append, absorb_eq positive]

end Cmput313.BlockHash
