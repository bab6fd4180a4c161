import Mathlib.Tactic.Common

/-!
# Cutting a list into pieces

Cuts at the multiples of a size, and how many pieces of at most this size a list needs.
-/

set_option autoImplicit false

namespace Cmput313.Pieces

variable {α : Type} {size : Nat} {list : List α}

def cut (size : Nat) (list : List α) (count : Nat) : List (List α) :=
  (List.range count).map fun i => (list.drop (i * size)).take size

/-- The parts make up the list, and none of them is too long. -/
structure Splits (size : Nat) (list : List α) (parts : List (List α)) : Prop where
  whole : parts.flatten = list
  fits : ∀ part ∈ parts, part.length ≤ size

@[simp] theorem cut_length (count : Nat) : (cut size list count).length = count := by
  simp [cut]

theorem cut_succ (count : Nat) :
    cut size list (count + 1) = cut size list count ++ [(list.drop (count * size)).take size] := by
  simp [cut, List.range_succ]

theorem cut_flatten (count : Nat) : (cut size list count).flatten = list.take (count * size) := by
  induction count with
  | zero => simp [cut]
  | succ count inductionHypothesis =>
      rw [cut_succ, List.flatten_append, inductionHypothesis, List.flatten_singleton,
        Nat.succ_mul, List.take_add]

theorem splits_cut {count : Nat} (reaches : list.length ≤ count * size) :
    Splits size list (cut size list count) where
  whole := by rw [cut_flatten, List.take_of_length_le reaches]
  fits := by
    intro part member
    obtain ⟨i, -, rfl⟩ := List.mem_map.mp member
    exact List.length_take_le ..

theorem Splits.length_le {parts : List (List α)} (splits : Splits size list parts) :
    list.length ≤ parts.length * size := by
  obtain ⟨rfl, fits⟩ := splits
  induction parts with
  | nil => simp
  | cons part rest inductionHypothesis =>
      have first := fits part (List.mem_cons_self ..)
      have later := inductionHypothesis fun other member =>
        fits other (List.mem_cons_of_mem _ member)
      rw [List.flatten_cons, List.length_append, List.length_cons, Nat.succ_mul]
      omega

theorem Splits.ceil_le {parts : List (List α)} (positive : 0 < size)
    (splits : Splits size list parts) : (list.length + (size - 1)) / size ≤ parts.length := by
  have covered := splits.length_le
  have bound : list.length + (size - 1) < (parts.length + 1) * size := by
    rw [Nat.succ_mul]
    omega
  exact Nat.le_of_lt_succ ((Nat.div_lt_iff_lt_mul positive).mpr bound)

end Cmput313.Pieces
