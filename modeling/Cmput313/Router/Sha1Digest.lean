import Cmput313.Lib.StructPack
import Cmput313.Router.Sha1
import Mathlib.Data.List.GetD

/-!
# What the secure hash computes

The digest of a whole message, and a hash that only remembers the message that it was
given.  The three functions of `sha1.c`, called in any order, do the same.
-/

set_option autoImplicit false

namespace Cmput313.Router.Sha1

open Cmput313.BlockHash Cmput313.Pieces Cmput313.StructPack

/-! ## The digest of a message -/

def rotateLeft (bits : Nat) (word : UInt32) : UInt32 := ⟨word.toBitVec.rotateLeft bits⟩

/-- `W(t)`: 16 words of the block, and then each from four before it. -/
def scheduleWord (block : List UInt8) (t : Nat) : UInt32 :=
  if first : t < 16 then UInt32.ofNat (unpackUnsigned ((block.drop (4 * t)).take 4))
  else rotateLeft 1 (scheduleWord block (t - 3) ^^^ scheduleWord block (t - 8) ^^^
    scheduleWord block (t - 14) ^^^ scheduleWord block (t - 16))

def roundFunction (t : Nat) (b c d : UInt32) : UInt32 :=
  if t < 20 then (b &&& c) ||| (~~~b &&& d)
  else if t < 40 then b ^^^ c ^^^ d
  else if t < 60 then (b &&& c) ||| (b &&& d) ||| (c &&& d)
  else b ^^^ c ^^^ d

def roundConstant (t : Nat) : UInt32 :=
  if t < 20 then 0x5A827999 else if t < 40 then 0x6ED9EBA1
  else if t < 60 then 0x8F1BBCDC else 0xCA62C1D6

def hashRound (block : List UInt8) (words : Words) (t : Nat) : Words :=
  { a := rotateLeft 5 words.a + roundFunction t words.b words.c words.d + words.e +
      scheduleWord block t + roundConstant t
    b := words.a
    c := rotateLeft 30 words.b
    d := words.c
    e := words.d }

def Words.add (first second : Words) : Words :=
  ⟨first.a + second.a, first.b + second.b, first.c + second.c, first.d + second.d,
    first.e + second.e⟩

def compress (words : Words) (block : List UInt8) : Words :=
  words.add ((List.range 80).foldl (hashRound block) words)

def initialWords : Words :=
  { a := 0x67452301, b := 0xEFCDAB89, c := 0x98BADCFE, d := 0x10325476, e := 0xC3D2E1F0 }

/-- A one bit, zeros to the next place 8 octets before the end of a block, and the length. -/
def pad (message : List UInt8) : List UInt8 :=
  message ++ 0x80 :: (List.replicate ((119 - message.length % 64) % 64) 0 ++
    bigEndian 8 (8 * message.length))

def sha1 (message : List UInt8) : Words := digest 64 compress initialWords (pad message)

/-! ## One block in the source -/

theorem and_all_ones (word : UInt32) : word &&& 0xFFFFFFFF = word := UInt32.and_neg_one

theorem sha1CircularShift_one (word : UInt32) : sha1CircularShift 1 word = rotateLeft 1 word := by
  rw [sha1CircularShift, and_all_ones]
  rfl

theorem sha1CircularShift_five (word : UInt32) : sha1CircularShift 5 word = rotateLeft 5 word := by
  rw [sha1CircularShift, and_all_ones]
  rfl

theorem sha1CircularShift_thirty (word : UInt32) :
    sha1CircularShift 30 word = rotateLeft 30 word := by
  rw [sha1CircularShift, and_all_ones]
  rfl

theorem shifted_octets (first second third fourth : UInt8) :
    (first.toUInt32 <<< 24) ||| (second.toUInt32 <<< 16) ||| (third.toUInt32 <<< 8) |||
        fourth.toUInt32 =
      UInt32.ofNat (unpackUnsigned [first, second, third, fourth]) := by
  have firstBound := first.toNat_lt
  have secondBound := second.toNat_lt
  have thirdBound := third.toNat_lt
  have fourthBound := fourth.toNat_lt
  have shift : ∀ (octet : UInt8) (bits : UInt32) (count : Nat), bits.toNat % 32 = count →
      count ≤ 24 → (octet.toUInt32 <<< bits).toNat = octet.toNat <<< count := by
    intro octet bits count same small
    have octetBound := octet.toNat_lt
    have scale : 2 ^ count ≤ 2 ^ 24 := Nat.pow_le_pow_right (by decide) small
    have fits : octet.toNat * 2 ^ count < 2 ^ 8 * 2 ^ 24 :=
      Nat.mul_lt_mul_of_lt_of_le octetBound scale (by decide)
    rw [UInt32.toNat_shiftLeft, same, UInt8.toNat_toUInt32, Nat.shiftLeft_eq,
      Nat.mod_eq_of_lt (by omega)]
  have bytes : ((first.toNat <<< 24 ||| second.toNat <<< 16) ||| third.toNat <<< 8) |||
      fourth.toNat = 256 * (256 * (256 * first.toNat + second.toNat) + third.toNat) +
        fourth.toNat := by
    have high : first.toNat <<< 24 ||| second.toNat <<< 16 =
        (first.toNat <<< 8 ||| second.toNat) <<< 16 := by
      rw [Nat.shiftLeft_or_distrib, ← Nat.shiftLeft_add]
    have middle : (first.toNat <<< 8 ||| second.toNat) <<< 16 ||| third.toNat <<< 8 =
        ((first.toNat <<< 8 ||| second.toNat) <<< 8 ||| third.toNat) <<< 8 := by
      rw [Nat.shiftLeft_or_distrib (b := third.toNat), ← Nat.shiftLeft_add]
    rw [high, middle, ← Nat.shiftLeft_add_eq_or_of_lt secondBound,
      ← Nat.shiftLeft_add_eq_or_of_lt thirdBound, ← Nat.shiftLeft_add_eq_or_of_lt fourthBound]
    simp only [Nat.shiftLeft_eq]
    omega
  apply UInt32.toNat_inj.mp
  rw [UInt32.toNat_or, UInt32.toNat_or, UInt32.toNat_or, shift first 24 24 rfl (by decide),
    shift second 16 16 rfl (by decide), shift third 8 8 rfl (by decide), UInt8.toNat_toUInt32,
    bytes, UInt32.toNat_ofNat']
  simp only [unpackUnsigned, List.foldl_cons, List.foldl_nil]
  omega

theorem take_drop_octets (block : Vector UInt8 64) {t : Nat} (first : t < 16) :
    (block.toList.drop (4 * t)).take 4 =
      [block[t * 4], block[t * 4 + 1], block[t * 4 + 2], block[t * 4 + 3]] := by
  apply List.ext_getElem
  · simp
    omega
  · intro i _ inside
    rw [List.getElem_take, List.getElem_drop, Vector.getElem_toList]
    simp only [List.length_cons, List.length_nil] at inside
    match i, inside with
    | 0, _ => simp [Nat.mul_comm]
    | 1, _ => simp [Nat.mul_comm]
    | 2, _ => simp [Nat.mul_comm]
    | 3, _ => simp [Nat.mul_comm]

theorem wordAt_firstWords (block : Vector UInt8 64) {t : Nat} (first : t < 16) :
    wordAt (firstWords block) t = scheduleWord block.toList t := by
  rw [scheduleWord, dif_pos first, take_drop_octets block first, ← shifted_octets, wordAt,
    firstWords, List.getD_eq_getElem _ _ (by simpa using first), List.getElem_map,
    List.getElem_finRange]
  rfl

theorem words_upto (block : Vector UInt8 64) (count : Nat) :
    let words := (List.range' 16 count).foldl (fun w t => w ++ [sha1CircularShift 1
      (wordAt w (t - 3) ^^^ wordAt w (t - 8) ^^^ wordAt w (t - 14) ^^^ wordAt w (t - 16))])
      (firstWords block)
    words.length = 16 + count ∧
      ∀ t < 16 + count, wordAt words t = scheduleWord block.toList t := by
  induction count with
  | zero => exact ⟨by simp [firstWords], fun t first => wordAt_firstWords block first⟩
  | succ count inductionHypothesis =>
      simp only [List.range'_concat, List.foldl_append, List.foldl_cons, List.foldl_nil,
        Nat.one_mul]
      generalize (List.range' 16 count).foldl _ _ = words at inductionHypothesis ⊢
      obtain ⟨length, filled⟩ := inductionHypothesis
      refine ⟨by simp [length]; omega, fun t bound => ?_⟩
      by_cases before : t < 16 + count
      · rw [← filled t before, wordAt, List.getD_append _ _ _ _ (by omega)]
        rfl
      · have last : t = 16 + count := by omega
        have late : ¬ 16 + count < 16 := by omega
        subst last
        rw [wordAt, List.getD_append_right _ _ _ _ (by omega), length, Nat.sub_self,
          List.getD_cons_zero, sha1CircularShift_one, filled _ (by omega), filled _ (by omega),
          filled _ (by omega), filled _ (by omega)]
        conv => rhs; rw [scheduleWord, dif_neg late]

theorem wordAt_wordSequence (block : Vector UInt8 64) {t : Nat} (inside : t < 80) :
    wordAt (wordSequence block) t = scheduleWord block.toList t :=
  (words_upto block 64).2 t inside

theorem foldl_round {f : UInt32 → UInt32 → UInt32 → UInt32} {k : UInt32} {block : Vector UInt8 64}
    {start count : Nat} (inside : start + count ≤ 80)
    (own : ∀ t, start ≤ t → t < start + count → roundFunction t = f ∧ roundConstant t = k)
    (words : Words) :
    (List.range' start count).foldl (round f k (wordSequence block)) words =
      (List.range' start count).foldl (hashRound block.toList) words := by
  refine List.foldl_ext _ _ _ fun words t member => ?_
  obtain ⟨low, high⟩ := List.mem_range'_1.mp member
  obtain ⟨sameFunction, sameConstant⟩ := own t low high
  rw [round, hashRound, wordAt_wordSequence block (by omega), and_all_ones,
    sha1CircularShift_five, sha1CircularShift_thirty, sameFunction, sameConstant]

theorem rounds_eq (block : Vector UInt8 64) (words : Words) :
    rounds (wordSequence block) words =
      (List.range 80).foldl (hashRound block.toList) words := by
  have split : List.range 80 = List.range' 0 20 ++ List.range' 20 20 ++ List.range' 40 20 ++
      List.range' 60 20 := rfl
  have first : ∀ t, 0 ≤ t → t < 0 + 20 → roundFunction t = choose ∧
      roundConstant t = 0x5A827999 := by
    intro t _ high
    exact ⟨by funext b c d; exact if_pos high, if_pos high⟩
  have second : ∀ t, 20 ≤ t → t < 20 + 20 → roundFunction t = parity ∧
      roundConstant t = 0x6ED9EBA1 := by
    intro t low high
    have past : ¬ t < 20 := by omega
    constructor
    · funext b c d
      rw [roundFunction, if_neg past, if_pos high]
      rfl
    · rw [roundConstant, if_neg past, if_pos high]
  have third : ∀ t, 40 ≤ t → t < 40 + 20 → roundFunction t = majority ∧
      roundConstant t = 0x8F1BBCDC := by
    intro t low high
    have past : ¬ t < 20 := by omega
    have farther : ¬ t < 40 := by omega
    constructor
    · funext b c d
      rw [roundFunction, if_neg past, if_neg farther, if_pos high]
      rfl
    · rw [roundConstant, if_neg past, if_neg farther, if_pos high]
  have fourth : ∀ t, 60 ≤ t → t < 60 + 20 → roundFunction t = parity ∧
      roundConstant t = 0xCA62C1D6 := by
    intro t low _
    have past : ¬ t < 20 := by omega
    have farther : ¬ t < 40 := by omega
    have farthest : ¬ t < 60 := by omega
    constructor
    · funext b c d
      rw [roundFunction, if_neg past, if_neg farther, if_neg farthest]
      rfl
    · rw [roundConstant, if_neg past, if_neg farther, if_neg farthest]
  rw [rounds, foldl_round (by decide) first, foldl_round (by decide) second,
    foldl_round (by decide) third, foldl_round (by decide) fourth, split, List.foldl_append,
    List.foldl_append, List.foldl_append]

theorem sha1ProcessMessageBlock_eq (context : Sha1Context) :
    sha1ProcessMessageBlock context =
      { context with
        messageDigest := compress context.messageDigest context.messageBlock.toList
        messageBlockIndex := 0 } := by
  simp only [sha1ProcessMessageBlock, and_all_ones, rounds_eq]
  rfl

/-- What a processed block leaves of a context. -/
structure Processed (context next : Sha1Context) : Prop where
  messageDigest : next.messageDigest =
    compress context.messageDigest context.messageBlock.toList
  lengthLow : next.lengthLow = context.lengthLow
  lengthHigh : next.lengthHigh = context.lengthHigh
  messageBlockIndex : next.messageBlockIndex = 0
  computed : next.computed = context.computed
  corrupted : next.corrupted = context.corrupted

theorem processed_of_eq {context next : Sha1Context} {words : Words}
    (same : next = { context with messageDigest := words, messageBlockIndex := 0 })
    (digest : words = compress context.messageDigest context.messageBlock.toList) :
    Processed context next := by
  subst same
  exact ⟨digest, rfl, rfl, rfl, rfl, rfl⟩

theorem sha1ProcessMessageBlock_processed (context : Sha1Context) :
    Processed context (sha1ProcessMessageBlock context) :=
  processed_of_eq (sha1ProcessMessageBlock_eq context) rfl

/-! ## Input -/

/-- The message that a context without a digest has been given. -/
structure Absorbing (context : Sha1Context) (message : List UInt8) : Prop where
  computed : context.computed = false
  corrupted : context.corrupted = false
  short : message.length < 2 ^ 61
  length : context.lengthHigh.toNat * 2 ^ 32 + context.lengthLow.toNat = 8 * message.length
  index : context.messageBlockIndex = message.length % 64
  blocks : (context.messageDigest, context.messageBlock.toList.take context.messageBlockIndex) =
    absorb 64 compress (initialWords, []) message

theorem sha1Reset_absorbing (context : Sha1Context) : Absorbing (sha1Reset context) [] where
  computed := rfl
  corrupted := rfl
  short := Nat.two_pow_pos 61
  length := by simp [sha1Reset]
  index := rfl
  blocks := rfl

theorem take_succ_set {n : Nat} (vector : Vector UInt8 n) {i : Nat} (inside : i < n)
    (octet : UInt8) :
    (vector.set i octet).toList.take (i + 1) = vector.toList.take i ++ [octet] := by
  rw [Vector.toList_set, List.take_add_one, List.take_set_of_le (Nat.le_refl i)]
  congr 1
  rw [List.getElem?_set_self (by simpa using inside), Option.toList_some]

/-- The length is counted until it no longer fits, at which the message is too long. -/
theorem countOctet_eq (context : Sha1Context) {octets : Nat} (short : octets < 2 ^ 61)
    (length : context.lengthHigh.toNat * 2 ^ 32 + context.lengthLow.toNat = 8 * octets) :
    context.countOctet =
      { context with
        lengthLow := UInt32.ofNat (8 * (octets + 1))
        lengthHigh := UInt32.ofNat (8 * (octets + 1) / 2 ^ 32)
        corrupted := decide (octets + 1 = 2 ^ 61) || context.corrupted } := by
  have lowBound := context.lengthLow.toNat_lt
  have highBound := context.lengthHigh.toNat_lt
  have low : context.lengthLow + 8 = UInt32.ofNat (8 * (octets + 1)) := by
    apply UInt32.toNat_inj.mp
    rw [UInt32.toNat_add, UInt32.toNat_ofNat']
    show (context.lengthLow.toNat + 8) % 2 ^ 32 = _
    omega
  have lowZero : UInt32.ofNat (8 * (octets + 1)) = 0 ↔ 8 * (octets + 1) % 2 ^ 32 = 0 := by
    rw [← UInt32.toNat_inj, UInt32.toNat_ofNat']
    rfl
  rw [Sha1Context.countOctet, and_all_ones, and_all_ones, low]
  by_cases wraps : 8 * (octets + 1) % 2 ^ 32 = 0
  · have high : context.lengthHigh + 1 = UInt32.ofNat (8 * (octets + 1) / 2 ^ 32) := by
      apply UInt32.toNat_inj.mp
      rw [UInt32.toNat_add, UInt32.toNat_ofNat']
      show (context.lengthHigh.toNat + 1) % 2 ^ 32 = _
      omega
    have highZero : UInt32.ofNat (8 * (octets + 1) / 2 ^ 32) = 0 ↔ octets + 1 = 2 ^ 61 := by
      rw [← UInt32.toNat_inj, UInt32.toNat_ofNat']
      show 8 * (octets + 1) / 2 ^ 32 % 2 ^ 32 = 0 ↔ _
      omega
    rw [if_pos (lowZero.mpr wraps), high]
    by_cases tooLong : octets + 1 = 2 ^ 61
    · simp only [if_pos (highZero.mpr tooLong), decide_eq_true tooLong, Bool.true_or]
    · simp only [if_neg fun zero => tooLong (highZero.mp zero), decide_eq_false tooLong,
        Bool.false_or]
  · have high : context.lengthHigh = UInt32.ofNat (8 * (octets + 1) / 2 ^ 32) := by
      apply UInt32.toNat_inj.mp
      rw [UInt32.toNat_ofNat']
      omega
    have fits : octets + 1 ≠ 2 ^ 61 := by omega
    rw [if_neg fun zero => wraps (lowZero.mp zero), decide_eq_false fits, Bool.false_or, ← high]

/-- Where an octet leads: behind its write and its count, a full block is processed. -/
def afterOctet (context : Sha1Context) (inside : context.messageBlockIndex < 64) (octet : UInt8) :
    Sha1Context :=
  let counted := Sha1Context.countOctet { context with
    messageBlock := context.messageBlock.set context.messageBlockIndex octet
    messageBlockIndex := context.messageBlockIndex + 1 }
  if counted.messageBlockIndex = 64 then sha1ProcessMessageBlock counted else counted

theorem inputOctets_cons {context : Sha1Context} (going : context.corrupted = false)
    (inside : context.messageBlockIndex < 64) (octet : UInt8) (rest : List UInt8) :
    inputOctets context (octet :: rest) = inputOctets (afterOctet context inside octet) rest := by
  rw [inputOctets, going, Sha1Context.push, dif_pos inside]
  rfl

variable {context : Sha1Context} {message : List UInt8}

theorem Absorbing.inside (absorbing : Absorbing context message) :
    context.messageBlockIndex < 64 := by
  rw [absorbing.index]
  exact Nat.mod_lt _ (by decide)

theorem Absorbing.blocks_next (absorbing : Absorbing context message) (octet : UInt8) :
    absorb 64 compress (initialWords, []) (message ++ [octet]) =
      feed 64 compress (context.messageDigest,
        context.messageBlock.toList.take context.messageBlockIndex) octet := by
  rw [absorb_append, ← absorbing.blocks]
  rfl

theorem Absorbing.afterOctet (absorbing : Absorbing context message) (octet : UInt8)
    (fits : message.length + 1 ≠ 2 ^ 61) :
    Absorbing (afterOctet context absorbing.inside octet) (message ++ [octet]) := by
  have inside := absorbing.inside
  have short := absorbing.short
  have counted := countOctet_eq { context with
    messageBlock := context.messageBlock.set context.messageBlockIndex octet
    messageBlockIndex := context.messageBlockIndex + 1 } short absorbing.length
  have written := take_succ_set context.messageBlock inside octet
  have size : (context.messageBlock.toList.take context.messageBlockIndex ++ [octet]).length =
      context.messageBlockIndex + 1 := by
    rw [← written, List.length_take, Vector.length_toList, Nat.min_eq_left (by omega)]
  have words : (UInt32.ofNat (8 * (message.length + 1) / 2 ^ 32)).toNat * 2 ^ 32 +
      (UInt32.ofNat (8 * (message.length + 1))).toNat = 8 * (message.length + 1) := by
    rw [UInt32.toNat_ofNat', UInt32.toNat_ofNat']
    omega
  have longer : (message ++ [octet]).length = message.length + 1 := List.length_append
  have index := absorbing.index
  rw [decide_eq_false fits, Bool.false_or] at counted
  rw [Sha1.afterOctet, counted]
  simp only []
  by_cases full : context.messageBlockIndex + 1 = 64
  · rw [if_pos full, sha1ProcessMessageBlock_eq]
    have whole : (context.messageBlock.set context.messageBlockIndex octet).toList =
        context.messageBlock.toList.take context.messageBlockIndex ++ [octet] := by
      rw [← written, full, List.take_of_length_le (by simp)]
    have blocks : (compress context.messageDigest
        (context.messageBlock.set context.messageBlockIndex octet).toList, []) =
        absorb 64 compress (initialWords, []) (message ++ [octet]) := by
      rw [absorbing.blocks_next, feed, if_pos (size.trans full), ← whole]
    refine ⟨absorbing.computed, absorbing.corrupted, by omega, ?_, ?_, blocks⟩
    · rw [longer]
      exact words
    · show 0 = _
      omega
  · rw [if_neg full]
    have blocks : (context.messageDigest,
        (context.messageBlock.set context.messageBlockIndex octet).toList.take
          (context.messageBlockIndex + 1)) =
        absorb 64 compress (initialWords, []) (message ++ [octet]) := by
      rw [absorbing.blocks_next, feed, if_neg (by rw [size]; exact full), ← written]
    refine ⟨absorbing.computed, absorbing.corrupted, by omega, ?_, ?_, blocks⟩
    · rw [longer]
      exact words
    · show context.messageBlockIndex + 1 = _
      omega

/-- With `2 ^ 61` octets the length in bits no longer fits. -/
theorem Absorbing.afterOctet_tooLong (absorbing : Absorbing context message) (octet : UInt8)
    (tooLong : message.length + 1 = 2 ^ 61) :
    (Sha1.afterOctet context absorbing.inside octet).corrupted = true := by
  have inside := absorbing.inside
  have counted := countOctet_eq { context with
    messageBlock := context.messageBlock.set context.messageBlockIndex octet
    messageBlockIndex := context.messageBlockIndex + 1 } absorbing.short absorbing.length
  rw [decide_eq_true tooLong, Bool.true_or] at counted
  rw [Sha1.afterOctet, counted]
  simp only []
  split
  · rw [sha1ProcessMessageBlock_eq]
  · rfl

/-! ## Padding -/

def Sha1Context.filled (context : Sha1Context) (block : Vector UInt8 64) (index : Nat) :
    Sha1Context :=
  { context with messageBlock := block, messageBlockIndex := index }

theorem zeroUntil_eq (bound : Nat) (context : Sha1Context)
    (before : context.messageBlockIndex ≤ bound) (room : bound ≤ 64) :
    ∃ block : Vector UInt8 64,
      context.zeroUntil bound = some (context.filled block bound) ∧
        block.toList.take bound =
          context.messageBlock.toList.take context.messageBlockIndex ++
            List.replicate (bound - context.messageBlockIndex) 0 := by
  generalize left : bound - context.messageBlockIndex = count
  induction count generalizing bound with
  | zero =>
      have same : bound = context.messageBlockIndex := by omega
      subst same
      refine ⟨context.messageBlock, ?_, by simp⟩
      rw [Sha1Context.zeroUntil, Nat.sub_self]
      rfl
  | succ count inductionHypothesis =>
      obtain ⟨bound, rfl⟩ : ∃ earlier, bound = earlier + 1 := ⟨bound - 1, by omega⟩
      have earlier : bound - context.messageBlockIndex = count := by omega
      obtain ⟨block, reached, zeros⟩ := inductionHypothesis bound (by omega) (by omega) earlier
      have inside : bound < 64 := by omega
      refine ⟨block.set bound 0, ?_, ?_⟩
      · have pushed : (context.filled block bound).push 0 =
            some (context.filled (block.set bound 0) (bound + 1)) := dif_pos inside
        rw [Sha1Context.zeroUntil, earlier] at reached
        rw [Sha1Context.zeroUntil, left, List.range_succ, List.foldlM_append, reached,
          Option.bind_eq_bind, Option.bind_some, List.foldlM_cons, pushed]
        rfl
      · rw [take_succ_set block inside, zeros, List.replicate_succ', List.append_assoc]

theorem push_zeroUntil (bound : Nat) (context : Sha1Context)
    (before : context.messageBlockIndex < bound) (room : bound ≤ 64) :
    ∃ block : Vector UInt8 64,
      ((context.push 0x80).bind fun context => context.zeroUntil bound) =
          some (context.filled block bound) ∧
        block.toList.take bound =
          context.messageBlock.toList.take context.messageBlockIndex ++ [0x80] ++
            List.replicate (bound - (context.messageBlockIndex + 1)) 0 := by
  have inside : context.messageBlockIndex < 64 := by omega
  have pushed : context.push 0x80 = some (context.filled
      (context.messageBlock.set context.messageBlockIndex 0x80)
      (context.messageBlockIndex + 1)) := dif_pos inside
  obtain ⟨block, reached, octets⟩ := zeroUntil_eq bound (context.filled
    (context.messageBlock.set context.messageBlockIndex 0x80)
    (context.messageBlockIndex + 1)) before room
  refine ⟨block, ?_, ?_⟩
  · rw [pushed, Option.bind_some, reached]
    rfl
  · rw [← take_succ_set context.messageBlock inside]
    exact octets

theorem stored_octet (word shift : UInt32) (bits : Nat) (same : shift.toNat % 32 = bits) :
    ((word >>> shift) &&& 0xFF).toUInt8 = UInt8.ofNat (word.toNat / 2 ^ bits) := by
  apply UInt8.toNat_inj.mp
  rw [UInt32.toNat_toUInt8, UInt32.toNat_and, UInt32.toNat_shiftRight, same,
    UInt8.toNat_ofNat', Nat.shiftRight_eq_div_pow]
  show (word.toNat / 2 ^ bits &&& 2 ^ 8 - 1) % 2 ^ 8 = _
  rw [Nat.and_two_pow_sub_one_eq_mod, Nat.mod_mod]

theorem storeLength_toList (context : Sha1Context) :
    context.storeLength.messageBlock.toList =
      context.messageBlock.toList.take 56 ++
        bigEndian 8 (context.lengthHigh.toNat * 2 ^ 32 + context.lengthLow.toNat) := by
  have lowBound := context.lengthLow.toNat_lt
  have digit : ∀ left right : Nat, left % 256 = right % 256 →
      UInt8.ofNat left = UInt8.ofNat right := by
    intro left right same
    apply UInt8.toNat_inj.mp
    rw [UInt8.toNat_ofNat', UInt8.toNat_ofNat']
    exact same
  have octets : bigEndian 8 (context.lengthHigh.toNat * 2 ^ 32 + context.lengthLow.toNat) =
      [UInt8.ofNat (context.lengthHigh.toNat / 2 ^ 24),
        UInt8.ofNat (context.lengthHigh.toNat / 2 ^ 16),
        UInt8.ofNat (context.lengthHigh.toNat / 2 ^ 8),
        UInt8.ofNat (context.lengthHigh.toNat / 2 ^ 0),
        UInt8.ofNat (context.lengthLow.toNat / 2 ^ 24),
        UInt8.ofNat (context.lengthLow.toNat / 2 ^ 16),
        UInt8.ofNat (context.lengthLow.toNat / 2 ^ 8),
        UInt8.ofNat (context.lengthLow.toNat / 2 ^ 0)] := by
    simp only [bigEndian, List.nil_append, List.cons_append, Nat.div_div_eq_div_mul,
      List.cons.injEq, and_true]
    exact ⟨digit _ _ (by omega), digit _ _ (by omega), digit _ _ (by omega),
      digit _ _ (by omega), digit _ _ (by omega), digit _ _ (by omega), digit _ _ (by omega),
      digit _ _ (by omega)⟩
  have store : ∀ (block : Vector UInt8 64) (i : Nat) (inside : i < 64) (octet : UInt8)
      (front : List UInt8), block.toList.take i = front →
      (block.set i octet).toList.take (i + 1) = front ++ [octet] := by
    intro block i inside octet front same
    rw [take_succ_set block inside, same]
  have whole := store _ 63 (by decide) (UInt8.ofNat (context.lengthLow.toNat / 2 ^ 0)) _
    (store _ 62 (by decide) (UInt8.ofNat (context.lengthLow.toNat / 2 ^ 8)) _
    (store _ 61 (by decide) (UInt8.ofNat (context.lengthLow.toNat / 2 ^ 16)) _
    (store _ 60 (by decide) (UInt8.ofNat (context.lengthLow.toNat / 2 ^ 24)) _
    (store _ 59 (by decide) (UInt8.ofNat (context.lengthHigh.toNat / 2 ^ 0)) _
    (store _ 58 (by decide) (UInt8.ofNat (context.lengthHigh.toNat / 2 ^ 8)) _
    (store _ 57 (by decide) (UInt8.ofNat (context.lengthHigh.toNat / 2 ^ 16)) _
    (store context.messageBlock 56 (by decide)
      (UInt8.ofNat (context.lengthHigh.toNat / 2 ^ 24)) _ rfl)))))))
  simp only [Sha1Context.storeLength]
  rw [stored_octet _ 24 24 rfl, stored_octet _ 16 16 rfl, stored_octet _ 8 8 rfl,
    stored_octet _ 0 0 rfl, stored_octet _ 24 24 rfl, stored_octet _ 16 16 rfl,
    stored_octet _ 8 8 rfl, stored_octet _ 0 0 rfl, octets]
  rw [List.take_of_length_le (by simp)] at whole
  simpa only [List.append_assoc, List.cons_append, List.nil_append] using whole

theorem lengthBlock_digest (context : Sha1Context) {waiting : List UInt8} {octets : Nat}
    (length : context.lengthHigh.toNat * 2 ^ 32 + context.lengthLow.toNat = 8 * octets)
    (front : context.messageBlock.toList.take 56 = waiting) :
    (sha1ProcessMessageBlock context.storeLength).messageDigest =
      compress context.messageDigest (waiting ++ bigEndian 8 (8 * octets)) := by
  rw [sha1ProcessMessageBlock_eq, ← length, ← front, ← storeLength_toList]
  rfl

theorem Absorbing.waiting_length (absorbing : Absorbing context message) :
    (context.messageBlock.toList.take context.messageBlockIndex).length =
      context.messageBlockIndex := by
  have inside := absorbing.inside
  rw [List.length_take, Vector.length_toList, Nat.min_eq_left (by omega)]

theorem Absorbing.sha1_eq (absorbing : Absorbing context message) :
    sha1 message =
      (absorb 64 compress (context.messageDigest,
        context.messageBlock.toList.take context.messageBlockIndex)
        (0x80 :: (List.replicate ((119 - context.messageBlockIndex) % 64) 0 ++
          bigEndian 8 (8 * message.length)))).1 := by
  rw [sha1, pad, digest_append (by decide), absorbing.blocks, absorbing.index]

theorem absorb_oneBlock (words : Words) {waiting length : List UInt8} (sized : length.length = 8)
    (low : waiting.length ≤ 55) :
    (absorb 64 compress (words, waiting)
        (0x80 :: (List.replicate ((119 - waiting.length) % 64) 0 ++ length))).1 =
      compress words
        (waiting ++ [0x80] ++ List.replicate (56 - (waiting.length + 1)) 0 ++ length) := by
  have zeros : (119 - waiting.length) % 64 = 56 - (waiting.length + 1) := by omega
  rw [zeros, absorb_of_eq (List.cons_ne_nil _ _)
    (by simp only [List.length_cons, List.length_append, List.length_replicate]; omega)]
  simp only [List.append_assoc, List.cons_append, List.nil_append]

theorem absorb_twoBlocks (words : Words) {waiting length : List UInt8} (sized : length.length = 8)
    (high : 55 < waiting.length) (inside : waiting.length < 64) :
    (absorb 64 compress (words, waiting)
        (0x80 :: (List.replicate ((119 - waiting.length) % 64) 0 ++ length))).1 =
      compress
        (compress words (waiting ++ [0x80] ++ List.replicate (64 - (waiting.length + 1)) 0))
        (List.replicate 56 0 ++ length) := by
  have zeros : (119 - waiting.length) % 64 = (64 - (waiting.length + 1)) + 56 := by omega
  have split : (0x80 :: (List.replicate ((119 - waiting.length) % 64) 0 ++ length) : List UInt8) =
      (0x80 :: List.replicate (64 - (waiting.length + 1)) 0) ++
        (List.replicate 56 0 ++ length) := by
    rw [zeros, List.replicate_add]
    simp only [List.append_assoc, List.cons_append]
  rw [split, absorb_append, absorb_of_eq (List.cons_ne_nil _ _)
    (by rw [List.length_cons, List.length_replicate]; omega), absorb_of_eq
    (fun none_ => by simp at none_)
    (by rw [List.length_nil, List.length_append, List.length_replicate]; omega)]
  simp only [List.append_assoc, List.cons_append, List.nil_append]

/-- The padding never leaves the block, and what is left is the digest of the message. -/
theorem Absorbing.padded (absorbing : Absorbing context message) :
    ∃ last, sha1PadMessage context = some last ∧ last.messageDigest = sha1 message ∧
      last.corrupted = false := by
  have inside := absorbing.inside
  have waits := absorbing.waiting_length
  have whole := absorbing.sha1_eq
  have sized := bigEndian_length 8 (8 * message.length)
  by_cases high : context.messageBlockIndex > 55
  · obtain ⟨block, filled, octets⟩ := push_zeroUntil 64 context inside (Nat.le_refl 64)
    have processed := sha1ProcessMessageBlock_processed (context.filled block 64)
    obtain ⟨first, same⟩ : ∃ first, sha1ProcessMessageBlock (context.filled block 64) = first :=
      ⟨_, rfl⟩
    rw [same] at processed
    obtain ⟨second, zeroed, zeros⟩ := zeroUntil_eq 56 first
      (by rw [processed.messageBlockIndex]; exact Nat.zero_le 56) (by decide)
    have length : first.lengthHigh.toNat * 2 ^ 32 + first.lengthLow.toNat =
        8 * message.length := by
      rw [processed.lengthHigh, processed.lengthLow]
      exact absorbing.length
    have front : second.toList.take 56 = List.replicate 56 0 := by
      rw [zeros, processed.messageBlockIndex, List.take_zero, List.nil_append, Nat.sub_zero]
    have words : first.messageDigest = compress context.messageDigest block.toList :=
      processed.messageDigest
    rw [List.take_of_length_le (by simp)] at octets
    have two := absorb_twoBlocks context.messageDigest sized (waits.symm ▸ high)
      (waits.symm ▸ inside)
    rw [waits, ← octets, ← words] at two
    refine ⟨sha1ProcessMessageBlock (first.filled second 56).storeLength, ?_, ?_, ?_⟩
    · rw [sha1PadMessage, if_pos high]
      simp only [Option.bind_eq_bind]
      rw [← Option.bind_assoc, filled, Option.bind_some, same, zeroed]
      rfl
    · rw [whole, two]
      exact lengthBlock_digest (first.filled second 56) length front
    · rw [(sha1ProcessMessageBlock_processed _).corrupted]
      exact processed.corrupted.trans absorbing.corrupted
  · obtain ⟨block, zeroed, octets⟩ := push_zeroUntil 56 context (by omega) (by decide)
    have one := absorb_oneBlock context.messageDigest sized
      (waits.trans_le (Nat.le_of_not_lt high))
    rw [waits] at one
    refine ⟨sha1ProcessMessageBlock (context.filled block 56).storeLength, ?_, ?_, ?_⟩
    · rw [sha1PadMessage, if_neg high]
      simp only [Option.bind_eq_bind]
      rw [← Option.bind_assoc, zeroed]
      rfl
    · rw [whole, one]
      exact lengthBlock_digest (context.filled block 56) absorbing.length octets
    · rw [(sha1ProcessMessageBlock_processed _).corrupted]
      exact absorbing.corrupted

/-! ## Calls in any order -/

/-- A hash that remembers the message, or that it has given its digest. -/
inductive Hash where
  | absorbing (message : List UInt8)
  | computed (message : List UInt8)
  | corrupted
  deriving DecidableEq

/-- The message may go on until its digest is asked for, as long as its length in bits fits. -/
def Hash.input : Hash → List UInt8 → Hash
  | .absorbing message, text =>
      if (message ++ text).length < 2 ^ 61 then .absorbing (message ++ text) else .corrupted
  | .computed message, text => if text = [] then .computed message else .corrupted
  | .corrupted, _ => .corrupted

def Hash.result : Hash → Int × Hash
  | .absorbing message => (1, .computed message)
  | .computed message => (1, .computed message)
  | .corrupted => (0, .corrupted)

inductive Call where
  | input (messageArray : List UInt8)
  | result
  deriving DecidableEq

def Hash.calls : Hash → List Call → List Int × Hash
  | hash, [] => ([], hash)
  | hash, .input messageArray :: rest => (hash.input messageArray).calls rest
  | hash, .result :: rest =>
      let (answer, next) := hash.result
      let (answers, last) := next.calls rest
      (answer :: answers, last)

/-- The same calls of `sha1.c`, with what `SHA1Result` returns. -/
def calls : Sha1Context → List Call → Option (List Int × Sha1Context)
  | context, [] => some ([], context)
  | context, .input messageArray :: rest => do
      let next ← sha1Input context messageArray
      calls next rest
  | context, .result :: rest => do
      let (answer, next) ← sha1Result context
      let (answers, last) ← calls next rest
      return (answer :: answers, last)

/-- What a context stands for. -/
def Represents (context : Sha1Context) : Hash → Prop
  | .absorbing message => Absorbing context message
  | .computed message => context.computed = true ∧ context.corrupted = false ∧
      context.messageDigest = sha1 message
  | .corrupted => context.corrupted = true

theorem inputOctets_corrupted {context : Sha1Context} (corrupted : context.corrupted = true)
    (text : List UInt8) : inputOctets context text = some context := by
  cases text with
  | nil => rfl
  | cons octet rest => rw [inputOctets, if_pos corrupted]

theorem Absorbing.inputOctets {context : Sha1Context} {message : List UInt8}
    (absorbing : Absorbing context message) (text : List UInt8) :
    ∃ next, inputOctets context text = some next ∧
      Represents next ((Hash.absorbing message).input text) := by
  induction text generalizing context message with
  | nil =>
      refine ⟨context, rfl, ?_⟩
      rw [Hash.input, List.append_nil, if_pos absorbing.short]
      exact absorbing
  | cons octet rest inductionHypothesis =>
      rw [inputOctets_cons absorbing.corrupted absorbing.inside]
      by_cases fits : message.length + 1 = 2 ^ 61
      · have corrupted := absorbing.afterOctet_tooLong octet fits
        have tooLong : ¬ (message ++ octet :: rest).length < 2 ^ 61 := by
          rw [List.length_append, List.length_cons]
          omega
        exact ⟨_, inputOctets_corrupted corrupted rest, by
          rw [Hash.input, if_neg tooLong]
          exact corrupted⟩
      · obtain ⟨next, reached, represents⟩ :=
          inductionHypothesis (absorbing.afterOctet octet fits)
        refine ⟨next, reached, ?_⟩
        rw [Hash.input, List.append_assoc, List.singleton_append] at represents
        exact represents

theorem sha1Input_represents {context : Sha1Context} {hash : Hash}
    (represents : Represents context hash) (text : List UInt8) :
    ∃ next, sha1Input context text = some next ∧ Represents next (hash.input text) := by
  by_cases none_ : text = []
  · subst none_
    refine ⟨context, if_pos rfl, ?_⟩
    cases hash with
    | absorbing message =>
        rw [Hash.input, List.append_nil, if_pos represents.short]
        exact represents
    | computed message => exact represents
    | corrupted => exact represents
  · cases hash with
    | absorbing message =>
        rw [sha1Input, if_neg none_, represents.computed, represents.corrupted]
        exact represents.inputOctets text
    | computed message =>
        refine ⟨{ context with corrupted := true }, ?_, ?_⟩
        · rw [sha1Input, if_neg none_, represents.1]
          rfl
        · rw [Hash.input, if_neg none_]
          rfl
    | corrupted =>
        have corrupted : context.corrupted = true := represents
        refine ⟨{ context with corrupted := true }, ?_, rfl⟩
        rw [sha1Input, if_neg none_, corrupted, Bool.or_true]
        rfl

theorem Absorbing.sha1Input {context : Sha1Context} {message : List UInt8}
    (absorbing : Absorbing context message) (text : List UInt8)
    (short : (message ++ text).length < 2 ^ 61) :
    ∃ next, sha1Input context text = some next ∧ Absorbing next (message ++ text) := by
  obtain ⟨next, taken, represents⟩ := @sha1Input_represents _ (.absorbing message) absorbing text
  rw [Hash.input, if_pos short] at represents
  exact ⟨next, taken, represents⟩

theorem sha1Result_represents {context : Sha1Context} {hash : Hash}
    (represents : Represents context hash) :
    ∃ next, sha1Result context = some (hash.result.1, next) ∧
      Represents next hash.result.2 := by
  cases hash with
  | absorbing message =>
      obtain ⟨padded, reached, digest, whole⟩ := represents.padded
      refine ⟨{ padded with computed := true }, ?_, rfl, whole, digest⟩
      rw [sha1Result, represents.corrupted, represents.computed, reached]
      rfl
  | computed message =>
      refine ⟨context, ?_, represents⟩
      rw [sha1Result, represents.1, represents.2.1]
      rfl
  | corrupted =>
      have corrupted : context.corrupted = true := represents
      refine ⟨context, ?_, represents⟩
      rw [sha1Result, corrupted]
      rfl

theorem calls_represents {context : Sha1Context} {hash : Hash}
    (represents : Represents context hash) (sequence : List Call) :
    ∃ last, calls context sequence = some ((hash.calls sequence).1, last) ∧
      Represents last (hash.calls sequence).2 := by
  induction sequence generalizing context hash with
  | nil => exact ⟨context, rfl, represents⟩
  | cons call rest inductionHypothesis =>
      cases call with
      | input text =>
          obtain ⟨next, taken, later⟩ := sha1Input_represents represents text
          obtain ⟨last, reached, ends⟩ := inductionHypothesis later
          refine ⟨last, ?_, ends⟩
          rw [calls, taken]
          exact reached
      | result =>
          obtain ⟨next, taken, later⟩ := sha1Result_represents represents
          obtain ⟨last, reached, ends⟩ := inductionHypothesis later
          refine ⟨last, ?_, ends⟩
          rw [calls, taken]
          simp only [Option.bind_eq_bind, Option.bind_some, reached]
          rfl

/-- Behind `SHA1Reset`, whatever was in the context, no order of calls writes outside of the
block; `SHA1Result` returns what the hash that remembers its message returns, and the digest
is that of the message, wherever it was cut. -/
theorem calls_behind_reset (context : Sha1Context) (sequence : List Call) :
    ∃ last, calls (sha1Reset context) sequence =
        some (((Hash.absorbing []).calls sequence).1, last) ∧
      ∀ message, ((Hash.absorbing []).calls sequence).2 = .computed message →
        last.messageDigest = sha1 message := by
  obtain ⟨last, reached, ends⟩ :=
    @calls_represents _ (.absorbing []) (sha1Reset_absorbing context) sequence
  refine ⟨last, reached, fun message same => ?_⟩
  rw [same] at ends
  exact ends.2.2

end Cmput313.Router.Sha1
