import Cmput313.Lib.CText
import Mathlib.Data.List.Basic

/-!
# Dotted addresses

`inet_ntoa` and `inet_aton` of inet(3), on the bytes of a text: an address is
written as four decimal numbers, and read from one to four numbers in the notation
of C, the last of which fills the bytes that are left.  White space ends an address
that is read, whatever follows.
-/

set_option autoImplicit false

namespace Cmput313.Inet

abbrev Address := Vector UInt8 4

abbrev Text := List UInt8

/-! ## Writing -/

def decimalDigit (digit : Nat) : UInt8 := UInt8.ofNat (48 + digit % 10)

def decimal (byte : UInt8) : Text :=
  if byte < 10 then [decimalDigit byte.toNat]
  else if byte < 100 then [decimalDigit (byte.toNat / 10), decimalDigit byte.toNat]
  else
    [decimalDigit (byte.toNat / 100), decimalDigit (byte.toNat / 10),
      decimalDigit byte.toNat]

def inetNtoa (address : Address) : Text :=
  List.intercalate [46] (address.toList.map decimal)

/-! ## Reading -/

def digitValue (char : UInt8) : Option Nat :=
  if 48 ≤ char ∧ char ≤ 57 then some (char.toNat - 48)
  else if 97 ≤ char ∧ char ≤ 102 then some (char.toNat - 87)
  else if 65 ≤ char ∧ char ≤ 70 then some (char.toNat - 55)
  else none

def digitsValue (base : Nat) (digits : Text) : Option Nat :=
  if digits = [] then none
  else
    digits.foldlM (fun value char => do
      let digit ← digitValue char
      if digit < base then some (base * value + digit) else none) 0

/-- A number in the notation of C: `0x` in front makes it hexadecimal, `0` octal. -/
def inetNumber : Text → Option Nat
  | 48 :: 120 :: digits => digitsValue 16 digits
  | 48 :: 88 :: digits => digitsValue 16 digits
  | 48 :: digit :: digits => digitsValue 8 (digit :: digits)
  | digits => digitsValue 10 digits

def addressOf (value : Nat) : Address :=
  #v[UInt8.ofNat (value / 16777216), UInt8.ofNat (value / 65536),
    UInt8.ofNat (value / 256), UInt8.ofNat value]

def addressOfParts : List Nat → Option Address
  | [a] => if a < 4294967296 then some (addressOf a) else none
  | [a, b] =>
      if a < 256 ∧ b < 16777216 then some (addressOf (a * 16777216 + b)) else none
  | [a, b, c] =>
      if a < 256 ∧ b < 256 ∧ c < 65536 then
        some (addressOf (a * 16777216 + b * 65536 + c))
      else none
  | [a, b, c, d] =>
      if a < 256 ∧ b < 256 ∧ c < 256 ∧ d < 256 then
        some (addressOf (a * 16777216 + b * 65536 + c * 256 + d))
      else none
  | _ => none

/-- A text with a NUL cannot be given to it. -/
def inetAton (text : Text) : Option Address :=
  if 0 ∈ text then none
  else do
    let address := text.takeWhile fun char => !CText.isSpace char
    let parts ← (address.splitOn 46).mapM inetNumber
    addressOfParts parts

example : inetAton [49, 48, 46, 49, 32, 120] = some #v[10, 0, 0, 1] := by decide

/-! ## Reading what was written -/

theorem forall_byte (property : UInt8 → Prop)
    (all : ∀ value : Fin 256, property (UInt8.ofNat value)) (byte : UInt8) :
    property byte := by
  have same : UInt8.ofNat byte.toNat = byte := UInt8.ofNat_toNat
  exact same ▸ all ⟨byte.toNat, byte.toNat_lt⟩

theorem dot_not_mem_decimal (byte : UInt8) : 46 ∉ decimal byte :=
  forall_byte (fun byte => 46 ∉ decimal byte) (by decide +kernel) byte

theorem inetNumber_decimal (byte : UInt8) : inetNumber (decimal byte) = some byte.toNat :=
  forall_byte (fun byte => inetNumber (decimal byte) = some byte.toNat) (by decide +kernel) byte

theorem all_isDigit_decimal (byte : UInt8) : (decimal byte).all CText.isDigit = true :=
  forall_byte (fun byte => (decimal byte).all CText.isDigit = true) (by decide +kernel) byte

theorem plain_of_isDigit {char : UInt8} (digit : CText.isDigit char = true) :
    char ≠ 0 ∧ CText.isSpace char = false := by
  have bounds : 48 ≤ char.toNat ∧ char.toNat ≤ 57 := by
    simpa [CText.isDigit, UInt8.le_iff_toNat_le] using digit
  refine ⟨?_, ?_⟩
  · rintro rfl
    simp at bounds
  · simp only [CText.isSpace, Bool.or_eq_false_iff, beq_eq_false_iff_ne, Bool.and_eq_false_iff,
      decide_eq_false_iff_not, UInt8.le_iff_toNat_le]
    refine ⟨?_, Or.inr ?_⟩
    · rintro rfl
      simp at bounds
    · exact Nat.not_le.mpr (Nat.lt_of_lt_of_le (by decide) bounds.1)

theorem plain_of_mem_decimal (byte : UInt8) :
    ∀ char ∈ decimal byte, char ≠ 0 ∧ CText.isSpace char = false := by
  intro char member
  exact plain_of_isDigit (List.all_eq_true.mp (all_isDigit_decimal byte) char member)

theorem mem_intersperse {α : Type*} {separator member : α} {parts : List α}
    (inside : member ∈ parts.intersperse separator) : member = separator ∨ member ∈ parts := by
  induction parts with
  | nil => cases inside
  | cons first rest inductionHypothesis =>
      cases rest with
      | nil => exact Or.inr inside
      | cons second rest =>
          rcases List.mem_cons.mp inside with rfl | inside
          · exact Or.inr (List.mem_cons_self ..)
          · rcases List.mem_cons.mp inside with rfl | inside
            · exact Or.inl rfl
            · exact (inductionHypothesis inside).imp id (List.mem_cons_of_mem _)

theorem plain_of_mem_inetNtoa {address : Address} {char : UInt8}
    (member : char ∈ inetNtoa address) : char ≠ 0 ∧ CText.isSpace char = false := by
  obtain ⟨part, inside, own⟩ := List.mem_flatten.mp member
  rcases mem_intersperse inside with rfl | written
  · rw [List.mem_singleton.mp own]
    exact ⟨by decide, by decide⟩
  · obtain ⟨byte, -, rfl⟩ := List.mem_map.mp written
    exact plain_of_mem_decimal byte char own

theorem ofNat_eq_of_mod {value : Nat} {byte : UInt8} (same : value % 256 = byte.toNat) :
    UInt8.ofNat value = byte := by
  apply UInt8.toNat_inj.mp
  rw [UInt8.toNat_ofNat']
  exact same

theorem addressOf_digits {a b c d : UInt8} {value : Nat}
    (total : value = a.toNat * 16777216 + b.toNat * 65536 + c.toNat * 256 + d.toNat) :
    addressOf value = #v[a, b, c, d] := by
  have bBound := b.toNat_lt
  have cBound := c.toNat_lt
  have dBound := d.toNat_lt
  have aBound := a.toNat_lt
  have first : value / 16777216 % 256 = a.toNat := by omega
  have second : value / 65536 % 256 = b.toNat := by omega
  have third : value / 256 % 256 = c.toNat := by omega
  have fourth : value % 256 = d.toNat := by omega
  rw [addressOf, ofNat_eq_of_mod first, ofNat_eq_of_mod second, ofNat_eq_of_mod third,
    ofNat_eq_of_mod fourth]

theorem addressOfParts_bytes (a b c d : UInt8) :
    addressOfParts [a.toNat, b.toNat, c.toNat, d.toNat] = some #v[a, b, c, d] := by
  have small : a.toNat < 256 ∧ b.toNat < 256 ∧ c.toNat < 256 ∧ d.toNat < 256 :=
    ⟨a.toNat_lt, b.toNat_lt, c.toNat_lt, d.toNat_lt⟩
  rw [addressOfParts, if_pos small, addressOf_digits rfl]

theorem inetAton_inetNtoa (address : Address) :
    inetAton (inetNtoa address) = some address := by
  have plain := @plain_of_mem_inetNtoa address
  have noNul : 0 ∉ inetNtoa address := fun member => (plain member).1 rfl
  have whole : (inetNtoa address).takeWhile (fun char => !CText.isSpace char) =
      inetNtoa address :=
    List.takeWhile_eq_self_iff.mpr fun char member => by rw [(plain member).2]; rfl
  rw [inetAton, if_neg noNul]
  dsimp only
  rw [whole]
  clear plain noNul whole
  obtain ⟨⟨bytes⟩, size⟩ := address
  match bytes, size with
  | [a, b, c, d], _ =>
      have parts : (inetNtoa ⟨⟨[a, b, c, d]⟩, rfl⟩).splitOn 46 =
          [decimal a, decimal b, decimal c, decimal d] := by
        refine List.splitOn_intercalate 46 ?_ (List.cons_ne_nil _ _)
        intro part member
        obtain ⟨byte, _, rfl⟩ := List.mem_map.mp member
        exact dot_not_mem_decimal byte
      have numbers : [decimal a, decimal b, decimal c, decimal d].mapM inetNumber =
          some [a.toNat, b.toNat, c.toNat, d.toNat] := by
        simp [inetNumber_decimal]
      rw [parts, numbers]
      exact addressOfParts_bytes a b c d

end Cmput313.Inet
