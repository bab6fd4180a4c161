import Cmput313.Lib.OnesComplement
import Cmput313.Router.Protocol

/-!
# The Internet checksum of `sr_utils.c`

`cksum` returns, in network order, 65535 minus the one's-complement sum of its
words, with 0 written as 65535.
-/

set_option autoImplicit false

namespace Cmput313.Router

open Cmput313.Bytes Cmput313.OnesComplement

/-- The `for` of `cksum` and the odd byte after it: 16-bit big-endian words
added up in 32 bits. -/
def cksumSum : Bytes → UInt32 → UInt32
  | high :: low :: rest, sum =>
      cksumSum rest (sum + ((high.toUInt32 <<< 8) ||| low.toUInt32))
  | [high], sum => sum + (high.toUInt32 <<< 8)
  | [], sum => sum

/-- `while (sum > 0xffff)`, at most `rounds` times; two are enough for any
32-bit sum (`cksumFold_le`). -/
def cksumFold : Nat → UInt32 → UInt32
  | 0, sum => sum
  | rounds + 1, sum =>
      if sum > 0xffff then cksumFold rounds ((sum >>> 16) + (sum &&& 0xffff))
      else sum

def cksum (data : Bytes) : UInt16 :=
  let sum := cksumFold 2 (cksumSum data 0)
  let sum := htons (~~~ sum).toUInt16
  if sum ≠ 0 then sum else 0xffff

theorem toNat_wordShift (high : UInt8) :
    (high.toUInt32 <<< 8).toNat = high.toNat * 256 := by
  have bound := high.toNat_lt
  simp only [UInt32.toNat_shiftLeft, UInt8.toNat_toUInt32]
  rw [show (8 : UInt32).toNat % 32 = 8 from rfl, Nat.shiftLeft_eq]
  omega

theorem toNat_wordOf (high low : UInt8) :
    ((high.toUInt32 <<< 8) ||| low.toUInt32).toNat =
      high.toNat * 256 + low.toNat := by
  have lowBound : low.toNat < 2 ^ 8 := low.toNat_lt
  rw [UInt32.toNat_or, toNat_wordShift, UInt8.toNat_toUInt32,
    show high.toNat * 256 = high.toNat <<< 8 by rw [Nat.shiftLeft_eq],
    ← Nat.shiftLeft_add_eq_or_of_lt lowBound]

/-- The 32-bit accumulator holds the exact sum as long as that fits. -/
theorem toNat_cksumSum :
    ∀ (data : Bytes) (sum : UInt32), sum.toNat + wordSum data < 2 ^ 32 →
      (cksumSum data sum).toNat = sum.toNat + wordSum data
  | [], sum, _ => by simp [cksumSum, wordSum]
  | [high], sum, fits => by
      simp only [wordSum] at fits
      rw [cksumSum, UInt32.toNat_add, toNat_wordShift, wordSum]
      omega
  | high :: low :: rest, sum, fits => by
      simp only [wordSum] at fits
      have next :
          (sum + ((high.toUInt32 <<< 8) ||| low.toUInt32)).toNat =
            sum.toNat + (high.toNat * 256 + low.toNat) := by
        rw [UInt32.toNat_add, toNat_wordOf]
        omega
      rw [cksumSum, toNat_cksumSum rest _ (by rw [next]; omega), next, wordSum]
      omega

theorem toNat_foldStep (sum : UInt32) :
    ((sum >>> 16) + (sum &&& 0xffff)).toNat = foldOnce sum.toNat := by
  have bound := sum.toNat_lt
  have low : sum.toNat &&& 65535 = sum.toNat % 65536 :=
    Nat.and_two_pow_sub_one_eq_mod sum.toNat 16
  rw [UInt32.toNat_add, UInt32.toNat_shiftRight, UInt32.toNat_and,
    show (0xffff : UInt32).toNat = 65535 from rfl, low,
    show (16 : UInt32).toNat % 32 = 16 from rfl, Nat.shiftRight_eq_div_pow]
  unfold foldOnce
  omega

theorem cksumFold_modEq (rounds : Nat) (sum : UInt32) :
    (cksumFold rounds sum).toNat ≡ sum.toNat [MOD 65535] := by
  induction rounds generalizing sum with
  | zero => rfl
  | succ rounds inductionHypothesis =>
      rw [cksumFold]
      split
      · exact (inductionHypothesis _).trans
          (by rw [toNat_foldStep]; exact foldOnce_modEq _)
      · rfl

/-- Two rounds leave a sum the loop would stop at. -/
theorem cksumFold_le (sum : UInt32) : (cksumFold 2 sum).toNat ≤ 65535 := by
  have bound := sum.toNat_lt
  have stops : ∀ value : UInt32, ¬ value > 0xffff → value.toNat ≤ 65535 := by
    intro value small
    have := UInt32.lt_iff_toNat_lt.not.mp small
    simpa using this
  by_cases first : sum > 0xffff
  · by_cases second : (sum >>> 16) + (sum &&& 0xffff) > 0xffff
    · simp only [cksumFold, first, second, if_true]
      rw [toNat_foldStep, toNat_foldStep]
      unfold foldOnce
      omega
    · simp only [cksumFold, first, second, if_true, if_false]
      exact stops _ second
  · simp only [cksumFold, first, if_false]
    exact stops _ first

theorem toNat_ntohs_cksum {data : Bytes} (fits : wordSum data < 2 ^ 32) :
    (ntohs (cksum data)).toNat = 65535 - wordSum data % 65535 := by
  have sumExact : (cksumSum data 0).toNat = wordSum data := by
    rw [toNat_cksumSum data 0 (by simpa using fits)]
    simp
  have folded : (cksumFold 2 (cksumSum data 0)).toNat ≡ wordSum data [MOD 65535] := by
    have same := cksumFold_modEq 2 (cksumSum data 0)
    rwa [sumExact] at same
  have small := cksumFold_le (cksumSum data 0)
  have complement :
      ((~~~ cksumFold 2 (cksumSum data 0)).toUInt16).toNat =
        65535 - (cksumFold 2 (cksumSum data 0)).toNat := by
    rw [UInt32.toNat_toUInt16, UInt32.toNat_not]
    have size : UInt32.size = 4294967296 := rfl
    omega
  unfold Nat.ModEq at folded
  simp only [cksum]
  split
  · rename_i nonzero
    have notZero :
        ((~~~ cksumFold 2 (cksumSum data 0)).toUInt16).toNat ≠ 0 := by
      intro zero
      exact nonzero (by rw [UInt16.toNat_inj.mp (zero.trans UInt16.toNat_zero.symm)]; rfl)
    simp only [ntohs, htons, swap16_swap16]
    -- a folded sum below 65535 that vanishes modulo 65535 is 0
    omega
  · rename_i zero
    have isZero : htons (~~~ cksumFold 2 (cksumSum data 0)).toUInt16 = htons 0 := by
      rw [not_not.mp zero]
      rfl
    have allOnes := congrArg UInt16.toNat (swap16_injective isZero)
    rw [complement] at allOnes
    rw [show (ntohs 0xffff).toNat = 65535 from rfl]
    have zeroNat : (0 : UInt16).toNat = 0 := rfl
    omega

theorem cksum_eq_iff {left right : Bytes} (leftFits : wordSum left < 2 ^ 32)
    (rightFits : wordSum right < 2 ^ 32) :
    cksum left = cksum right ↔ wordSum left ≡ wordSum right [MOD 65535] := by
  have leftValue := toNat_ntohs_cksum leftFits
  have rightValue := toNat_ntohs_cksum rightFits
  unfold Nat.ModEq
  constructor
  · intro same
    rw [same, rightValue] at leftValue
    omega
  · intro same
    apply swap16_injective
    apply UInt16.toNat_inj.mp
    change (ntohs (cksum left)).toNat = (ntohs (cksum right)).toNat
    rw [leftValue, rightValue, same]

/-! ## Storing a checksum -/

theorem wordSum_bytes16 (word : UInt16) :
    wordSum (bytes16 word) = (ntohs word).toNat := by
  have bound := word.toNat_lt
  rw [bytes16, wordSum, wordSum, ntohs, toNat_swap16, UInt8.toNat_ofNat',
    UInt8.toNat_ofNat']
  omega

theorem wordSum_put {data : Bytes} {offset : Nat} (even : offset % 2 = 0)
    (inside : offset + 2 ≤ data.length) (word : UInt16) :
    wordSum (put data offset (bytes16 word)) =
      wordSum (put data offset (bytes16 0)) + (ntohs word).toNat := by
  have frontEven : (data.take offset).length % 2 = 0 := by
    rw [List.length_take, Nat.min_eq_left (by omega)]
    exact even
  have parts : ∀ stored : UInt16, wordSum (put data offset (bytes16 stored)) =
      wordSum (data.take offset) + ((ntohs stored).toNat +
        wordSum (data.drop (offset + 2))) := by
    intro stored
    rw [put, List.append_assoc, wordSum_append _ _ frontEven,
      wordSum_append _ _ (by rw [bytes16_length]), wordSum_bytes16, bytes16_length]
  have zero : (ntohs 0).toNat = 0 := rfl
  rw [parts word, parts 0, zero]
  omega

theorem cksumFold_of_two_le {rounds : Nat} (enough : 2 ≤ rounds) (sum : UInt32) :
    cksumFold rounds sum = cksumFold 2 sum := by
  have stopped : ∀ (more : Nat) (value : UInt32), ¬ value > 0xffff →
      cksumFold more value = value := by
    intro more value small
    cases more with
    | zero => rfl
    | succ more => rw [cksumFold, if_neg small]
  have further : ∀ (first second : Nat) (value : UInt32),
      cksumFold (first + second) value = cksumFold second (cksumFold first value) := by
    intro first second value
    induction first generalizing value with
    | zero => rw [Nat.zero_add, cksumFold]
    | succ first inductionHypothesis =>
        by_cases large : value > 0xffff
        · rw [Nat.succ_add, cksumFold, if_pos large, cksumFold, if_pos large]
          exact inductionHypothesis _
        · rw [stopped _ value large, stopped _ value large, stopped _ value large]
  obtain ⟨more, rfl⟩ := Nat.exists_eq_add_of_le enough
  rw [further, stopped]
  have small := cksumFold_le sum
  rw [gt_iff_lt, UInt32.lt_iff_toNat_lt]
  exact Nat.not_lt.mpr small

theorem foldStep_lt {sum : UInt32} (large : sum > 0xffff) :
    (sum >>> 16).toNat + (sum &&& 0xffff).toNat < 2 ^ 32 ∧
      (sum >>> 16) + (sum &&& 0xffff) < sum := by
  have bound := sum.toNat_lt
  have low : sum.toNat &&& 65535 = sum.toNat % 65536 :=
    Nat.and_two_pow_sub_one_eq_mod sum.toNat 16
  have above : 65535 < sum.toNat := UInt32.lt_iff_toNat_lt.mp large
  constructor
  · rw [UInt32.toNat_shiftRight, UInt32.toNat_and,
      show (0xffff : UInt32).toNat = 65535 from rfl, low,
      show (16 : UInt32).toNat % 32 = 16 from rfl, Nat.shiftRight_eq_div_pow]
    omega
  · rw [UInt32.lt_iff_toNat_lt, toNat_foldStep]
    unfold foldOnce
    omega

/-- Storing the checksum of data with a zero in its place makes all ones of the
one's-complement sum.  The accumulator is exact after every byte, and the folding
loop comes down with every round and is done after two. -/
theorem onesSum_put_cksum {data : Bytes} {offset : Nat} (short : data.length ≤ 65535)
    (even : offset % 2 = 0) (inside : offset + 2 ≤ data.length) :
    onesSum (put (put data offset (bytes16 0)) offset
      (bytes16 (cksum (put data offset (bytes16 0))))) = 0xffff ∧
    (∀ front, front <+: put data offset (bytes16 0) →
      (cksumSum front 0).toNat = wordSum front) ∧
    (∀ sum : UInt32, sum > 0xffff →
      (sum >>> 16).toNat + (sum &&& 0xffff).toNat < 2 ^ 32 ∧
        (sum >>> 16) + (sum &&& 0xffff) < sum) ∧
    ∀ sum : UInt32, ¬ cksumFold 2 sum > 0xffff ∧
      ∀ rounds, 2 ≤ rounds → cksumFold rounds sum = cksumFold 2 sum := by
  have fits : offset + (bytes16 0).length ≤ data.length := by
    rw [bytes16_length]; exact inside
  have cleared := put_length fits
  have total : wordSum (put data offset (bytes16 0)) < 2 ^ 32 := by
    have bound := wordSum_le (put data offset (bytes16 0))
    rw [cleared] at bound
    omega
  refine ⟨?_, ?_, fun _ => foldStep_lt,
    fun sum => ⟨?_, fun _ enough => cksumFold_of_two_le enough sum⟩⟩
  · have value := toNat_ntohs_cksum total
    rw [put_put fits (by rfl), onesSum_eq_ones_iff, wordSum_put even inside, value]
    omega
  · intro front isFront
    obtain ⟨rest, whole⟩ := isFront
    have below := wordSum_le_append rest front
    rw [whole] at below
    rw [toNat_cksumSum front 0 (by rw [UInt32.toNat_zero]; omega), UInt32.toNat_zero,
      Nat.zero_add]
  · have small := cksumFold_le sum
    rw [gt_iff_lt, UInt32.lt_iff_toNat_lt]
    exact Nat.not_lt.mpr small

/-- An odd number of bytes, and sums that need the carry. -/
theorem onesSum_put_cksum_odd :
    onesSum (put (put [0xff, 0xff, 0, 0, 0x80] 2 (bytes16 0)) 2
      (bytes16 (cksum (put [0xff, 0xff, 0, 0, 0x80] 2 (bytes16 0))))) = 0xffff ∧
    (∀ front, front <+: put [0xff, 0xff, 0, 0, 0x80] 2 (bytes16 0) →
      (cksumSum front 0).toNat = wordSum front) ∧
    (∀ sum : UInt32, sum > 0xffff →
      (sum >>> 16).toNat + (sum &&& 0xffff).toNat < 2 ^ 32 ∧
        (sum >>> 16) + (sum &&& 0xffff) < sum) ∧
    ∀ sum : UInt32, ¬ cksumFold 2 sum > 0xffff ∧
      ∀ rounds, 2 ≤ rounds → cksumFold rounds sum = cksumFold 2 sum :=
  onesSum_put_cksum (by decide) (by decide) (by decide)

end Cmput313.Router
