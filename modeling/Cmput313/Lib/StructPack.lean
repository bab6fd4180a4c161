import Cmput313.Lib.Bytes
import Mathlib.Algebra.Group.Nat.Defs

/-!
# Packed fields

The fields of Python's `struct` in network order, `>`: integers of two and four
bytes and `s` fields, which cut a text to their width or fill it with NULs, and
the records of one size that a buffer holds in a row.
-/

set_option autoImplicit false

namespace Cmput313.StructPack

open Cmput313.Bytes

def packI (value : UInt32) : List UInt8 := (bytes32 value).reverse

def packS (width : Nat) (text : List UInt8) : List UInt8 :=
  text.take width ++ List.replicate (width - text.length) 0

@[simp] theorem packI_length (value : UInt32) : (packI value).length = 4 := rfl

@[simp] theorem packS_length (width : Nat) (text : List UInt8) :
    (packS width text).length = width := by
  simp [packS]
  omega

@[simp] theorem packS_self (text : List UInt8) : packS text.length text = text := by
  simp [packS]

theorem packS_of_le {width : Nat} {text : List UInt8} (fits : text.length ≤ width) :
    packS width text = text ++ List.replicate (width - text.length) 0 := by
  rw [packS, List.take_of_length_le fits]

theorem swap32_le32 (b0 b1 b2 b3 : UInt8) :
    swap32 (le32 b0 b1 b2 b3) = le32 b3 b2 b1 b0 := by
  have bound0 := b0.toNat_lt
  have bound1 := b1.toNat_lt
  have bound2 := b2.toNat_lt
  have bound3 := b3.toNat_lt
  have value : ∀ c0 c1 c2 c3 : UInt8, (le32 c0 c1 c2 c3).toNat =
      c0.toNat + 256 * c1.toNat + 65536 * c2.toNat + 16777216 * c3.toNat := by
    intro c0 c1 c2 c3
    have small0 := c0.toNat_lt
    have small1 := c1.toNat_lt
    have small2 := c2.toNat_lt
    have small3 := c3.toNat_lt
    rw [le32, UInt32.toNat_ofNat']
    omega
  apply UInt32.toNat_inj.mp
  rw [toNat_swap32, value, value]
  have top : (b0.toNat + 256 * b1.toNat + 65536 * b2.toNat + 16777216 * b3.toNat) /
      16777216 = b3.toNat := by omega
  have upper : (b0.toNat + 256 * b1.toNat + 65536 * b2.toNat + 16777216 * b3.toNat) /
      65536 % 256 = b2.toNat := by omega
  have lower : (b0.toNat + 256 * b1.toNat + 65536 * b2.toNat + 16777216 * b3.toNat) /
      256 % 256 = b1.toNat := by omega
  have bottom : (b0.toNat + 256 * b1.toNat + 65536 * b2.toNat + 16777216 * b3.toNat) %
      256 = b0.toNat := by omega
  rw [top, upper, lower, bottom]

/-- The bytes in network order are those of the exchanged word on a little-endian
machine. -/
theorem packI_eq (value : UInt32) : packI value = bytes32 (swap32 value) := by
  have whole : le32 (UInt8.ofNat value.toNat) (UInt8.ofNat (value.toNat / 256))
      (UInt8.ofNat (value.toNat / 65536)) (UInt8.ofNat (value.toNat / 16777216)) = value :=
    peek32_bytes32 (fun _ => 0) value
  rw [← whole, swap32_le32, packI, bytes32_le32, bytes32_le32]
  rfl

theorem peek32_append_packI (background : Nat → UInt8) (front back : List UInt8)
    (value : UInt32) :
    peek32 background (front ++ packI value ++ back) front.length = swap32 value := by
  apply bytes32_injective
  rw [bytes32_peek32 background (by simp), ← packI_eq, List.append_assoc,
    List.drop_left, List.take_left' (packI_length value)]

/-! ## Unsigned integers of any size -/

def bigEndian : Nat → Nat → List UInt8
  | 0, _ => []
  | size + 1, value => bigEndian size (value / 256) ++ [UInt8.ofNat value]

/-- An unsigned integer of `size` bytes; one that does not fit is an error. -/
def packUnsigned (size value : Nat) : Option (List UInt8) :=
  if value < 256 ^ size then some (bigEndian size value) else none

def unpackUnsigned (bytes : List UInt8) : Nat :=
  bytes.foldl (fun value byte => 256 * value + byte.toNat) 0

@[simp] theorem bigEndian_length (size value : Nat) : (bigEndian size value).length = size := by
  induction size generalizing value with
  | zero => rfl
  | succ size inductionHypothesis => simp [bigEndian, inductionHypothesis]

theorem packUnsigned_length {size value : Nat} {bytes : List UInt8}
    (packed : packUnsigned size value = some bytes) : bytes.length = size := by
  rw [packUnsigned, Option.ite_none_right_eq_some] at packed
  rw [← Option.some.inj packed.2, bigEndian_length]

theorem unpackUnsigned_bigEndian {size value : Nat} (fits : value < 256 ^ size) :
    unpackUnsigned (bigEndian size value) = value := by
  induction size generalizing value with
  | zero =>
      rw [Nat.pow_zero] at fits
      simp only [bigEndian, unpackUnsigned, List.foldl_nil]
      omega
  | succ size inductionHypothesis =>
      have front : value / 256 < 256 ^ size := by
        rw [Nat.pow_succ] at fits
        exact Nat.div_lt_of_lt_mul (by omega)
      have digits := inductionHypothesis front
      rw [unpackUnsigned] at digits ⊢
      rw [bigEndian, List.foldl_append, digits, List.foldl_cons, List.foldl_nil,
        UInt8.toNat_ofNat']
      omega

theorem packI_ofNat (value : Nat) : packI (UInt32.ofNat value) = bigEndian 4 value := by
  have same : ∀ left right : Nat, left % 256 = right % 256 →
      UInt8.ofNat left = UInt8.ofNat right := by
    intro left right equal
    apply UInt8.toNat_inj.mp
    rw [UInt8.toNat_ofNat', UInt8.toNat_ofNat']
    exact equal
  simp only [packI, bytes32, UInt32.toNat_ofNat', List.reverse_cons, List.reverse_nil,
    List.nil_append, List.cons_append, bigEndian, List.cons.injEq, and_true]
  exact ⟨same _ _ (by omega), same _ _ (by omega), same _ _ (by omega), same _ _ (by omega)⟩

/-! ## Records of one size in a row -/

section Records

variable {α : Type} {size : Nat}

theorem length_flatten_records {records : List (List α)}
    (sized : ∀ record ∈ records, record.length = size) :
    records.flatten.length = size * records.length := by
  induction records with
  | nil => simp
  | cons record rest inductionHypothesis =>
      have head := sized record (List.mem_cons_self ..)
      have tail := inductionHypothesis fun other member =>
        sized other (List.mem_cons_of_mem _ member)
      rw [List.flatten_cons, List.length_append, head, tail, List.length_cons,
        Nat.mul_succ, Nat.add_comm]

theorem map_range_records {records : List (List α)}
    (sized : ∀ record ∈ records, record.length = size) (back : List α) :
    (List.range records.length).map
        (fun index => ((records.flatten ++ back).drop (size * index)).take size) =
      records := by
  induction records with
  | nil => rfl
  | cons record rest inductionHypothesis =>
      have head := sized record (List.mem_cons_self ..)
      have tail := inductionHypothesis fun other member =>
        sized other (List.mem_cons_of_mem _ member)
      have later : ∀ index, ((record :: rest).flatten ++ back).drop (size * (index + 1)) =
          (rest.flatten ++ back).drop (size * index) := by
        intro index
        rw [List.flatten_cons, List.append_assoc, Nat.mul_succ, Nat.add_comm,
          ← List.drop_drop, List.drop_left' head]
      rw [List.length_cons, List.range_succ_eq_map, List.map_cons, List.map_map]
      congr 1
      · rw [Nat.mul_zero, List.drop_zero, List.flatten_cons, List.append_assoc,
          List.take_left' head]
      · refine Eq.trans (List.map_congr_left fun index _ => ?_) tail
        simp only [Function.comp_apply, Nat.succ_eq_add_one, later]

end Records

end Cmput313.StructPack
