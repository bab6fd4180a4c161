import Mathlib.Data.Nat.ModEq
import Mathlib.Tactic.Common

/-!
# One's-complement sums of byte strings

The sum of the 16-bit big-endian words of a byte string, an odd last byte padded
with a zero, and its residue modulo 65535, which is what one's-complement
addition of the words computes.
-/

set_option autoImplicit false

namespace Cmput313.OnesComplement

def wordSum : List UInt8 → Nat
  | high :: low :: rest => high.toNat * 256 + low.toNat + wordSum rest
  | [high] => high.toNat * 256
  | [] => 0

/-- Adding the carries back in, until 16 bits are enough. -/
def foldOnce (sum : Nat) : Nat := sum / 65536 + sum % 65536

theorem foldOnce_modEq (sum : Nat) : foldOnce sum ≡ sum [MOD 65535] := by
  unfold foldOnce Nat.ModEq
  omega

theorem wordSum_append (rest : List UInt8) :
    ∀ first : List UInt8, first.length % 2 = 0 →
      wordSum (first ++ rest) = wordSum first + wordSum rest
  | [], _ => by simp [wordSum]
  | [_], odd => by simp at odd
  | high :: low :: tail, even => by
      have tailEven : tail.length % 2 = 0 := by
        simp only [List.length_cons] at even; omega
      simp only [List.cons_append, wordSum, wordSum_append rest tail tailEven]
      omega

theorem wordSum_le :
    ∀ data : List UInt8, wordSum data ≤ 65535 * ((data.length + 1) / 2)
  | [] => by simp [wordSum]
  | [high] => by
      have bound := high.toNat_lt
      simp only [wordSum, List.length_cons, List.length_nil]
      omega
  | high :: low :: rest => by
      have highBound := high.toNat_lt
      have lowBound := low.toNat_lt
      have restBound := wordSum_le rest
      simp only [wordSum, List.length_cons]
      omega

theorem wordSum_le_append (rest : List UInt8) :
    ∀ front : List UInt8, wordSum front ≤ wordSum (front ++ rest)
  | [] => Nat.zero_le _
  | [high] => by
      cases rest with
      | nil => exact Nat.le_refl _
      | cons low rest =>
          simp only [List.cons_append, List.nil_append, wordSum]
          omega
  | high :: low :: tail => by
      have below := wordSum_le_append rest tail
      simp only [List.cons_append, wordSum]
      omega

/-! ## Addition with end-around carry -/

def onesSumFrom : Nat → List UInt8 → Nat
  | sum, high :: low :: rest => onesSumFrom (foldOnce (sum + (high.toNat * 256 + low.toNat))) rest
  | sum, [high] => foldOnce (sum + high.toNat * 256)
  | sum, [] => sum

def onesSum (data : List UInt8) : Nat := onesSumFrom 0 data

/-- The 16-bit value that stands for a sum: 0 for 0 alone, and otherwise from 1 to 65535. -/
def residue (sum : Nat) : Nat := if sum = 0 then 0 else (sum - 1) % 65535 + 1

theorem foldOnce_residue {word : Nat} (small : word ≤ 65535) (sum : Nat) :
    foldOnce (residue sum + word) = residue (sum + word) := by
  unfold foldOnce residue
  by_cases zero : sum = 0
  · by_cases none : word = 0
    · simp [zero, none]
    · simp only [zero, if_true, Nat.zero_add, none, if_false]
      omega
  · have positive : sum + word ≠ 0 := by omega
    simp only [zero, positive, if_false]
    omega

theorem onesSumFrom_residue :
    ∀ (data : List UInt8) (sum : Nat),
      onesSumFrom (residue sum) data = residue (sum + wordSum data)
  | [], sum => by simp [onesSumFrom, wordSum]
  | [high], sum => by
      have bound := high.toNat_lt
      rw [onesSumFrom, foldOnce_residue (by omega), wordSum]
  | high :: low :: rest, sum => by
      have highBound := high.toNat_lt
      have lowBound := low.toNat_lt
      rw [onesSumFrom, foldOnce_residue (by omega), onesSumFrom_residue rest, wordSum,
        Nat.add_assoc]

theorem onesSum_eq_residue (data : List UInt8) : onesSum data = residue (wordSum data) := by
  have from_zero := onesSumFrom_residue data 0
  rw [Nat.zero_add] at from_zero
  exact from_zero

/-- All ones: the words do not all vanish, and their sum does modulo 65535. -/
theorem onesSum_eq_ones_iff (data : List UInt8) :
    onesSum data = 65535 ↔ 0 < wordSum data ∧ wordSum data % 65535 = 0 := by
  rw [onesSum_eq_residue, residue]
  split
  · omega
  · omega

end Cmput313.OnesComplement
