import Mathlib.Data.List.DropRight
import Mathlib.Data.List.TakeWhile
import Mathlib.Tactic.Common

/-!
# C strings and their numbers

The functions of `string.h`, `stdlib.h` and `stdio.h` that read words and numbers
from a text, on bytes in the C locale.  An `int` has 32 bits and a `long` 64; a
number that does not fit is cut as glibc cuts it.
-/

set_option autoImplicit false

namespace Cmput313.CText

abbrev Text := List UInt8

def isSpace (char : UInt8) : Bool := char == 32 || (9 ≤ char && char ≤ 13)

def isDigit (char : UInt8) : Bool := 48 ≤ char && char ≤ 57

def cText (buffer : Text) : Text := buffer.takeWhile (· != 0)

theorem ne_zero_of_mem_cText {buffer : Text} {char : UInt8} (member : char ∈ cText buffer) :
    (char != 0) = true :=
  List.mem_takeWhile_imp (p := (· != 0)) member

@[simp] theorem cText_cText (buffer : Text) : cText (cText buffer) = cText buffer :=
  List.takeWhile_eq_self_iff.mpr fun _ member => ne_zero_of_mem_cText member

def skipSpaces (text : Text) : Text := text.dropWhile isSpace

/-! ## Numbers -/

def digitsValue (digits : Text) : Nat :=
  digits.foldl (fun value digit => 10 * value + (digit.toNat - 48)) 0

/-- A number that `strtol` stops at the bounds of a `long`, and an `int` takes the
low half of. -/
def toInt (number : Int) : Int :=
  let long := max (-9223372036854775808) (min number 9223372036854775807)
  (long + 2147483648) % 4294967296 - 2147483648

/-- Whether a number starts with a minus sign, and what follows its sign. -/
def splitSign : Text → Bool × Text
  | 45 :: rest => (true, rest)
  | 43 :: rest => (false, rest)
  | text => (false, text)

/-- An optional sign and at least one digit: the number, and what is behind it. -/
def scanNumber (text : Text) : Option (Int × Text) :=
  let (negative, unsigned) := splitSign text
  let digits := unsigned.takeWhile isDigit
  if digits = [] then none
  else
    let magnitude : Int := digitsValue digits
    some (toInt (if negative then -magnitude else magnitude), unsigned.dropWhile isDigit)

def scanInt (text : Text) : Option (Int × Text) := scanNumber (skipSpaces text)

def atoi (text : Text) : Int :=
  match scanInt text with
  | some (number, _) => number
  | none => 0

/-! ## Words -/

def scanWord (width : Nat) (text : Text) : Option (Text × Text) :=
  let rest := skipSpaces text
  let word := (rest.take width).takeWhile (!isSpace ·)
  if word = [] then none else some (word, rest.drop word.length)

/-- `strtok(_, " ")`: the next token, and where the call behind it goes on. -/
def strtok (text : Text) : Option (Text × Text) :=
  let rest := text.dropWhile (· == 32)
  if rest = [] then none
  else some (rest.takeWhile (· != 32), (rest.dropWhile (· != 32)).drop 1)

/-- What `strtok` leaves of the buffer: the delimiter behind its first token is a NUL
now. -/
def strtokCut (text : Text) : Text :=
  text.takeWhile (· == 32) ++ (text.dropWhile (· == 32)).takeWhile (· != 32)

/-! ## Spaces -/

theorem skipSpaces_append {spaces : Text} (all : ∀ char ∈ spaces, isSpace char = true)
    (text : Text) : skipSpaces (spaces ++ text) = skipSpaces text := by
  induction spaces with
  | nil => rfl
  | cons char rest inductionHypothesis =>
      have head := all char (List.mem_cons_self ..)
      have tail := inductionHypothesis fun other member =>
        all other (List.mem_cons_of_mem _ member)
      rw [List.cons_append, skipSpaces, List.dropWhile_cons_of_pos head]
      exact tail

theorem skipSpaces_of_all {text : Text} (all : ∀ char ∈ text, isSpace char = true) :
    skipSpaces text = [] :=
  List.dropWhile_eq_nil_iff.mpr all

theorem exists_spaces (text : Text) :
    ∃ spaces, text = spaces ++ skipSpaces text ∧ ∀ char ∈ spaces, isSpace char = true :=
  ⟨text.takeWhile isSpace, List.takeWhile_append_dropWhile.symm,
    fun _ member => List.mem_takeWhile_imp member⟩

theorem skipSpaces_head {text rest : Text} {char : UInt8}
    (skipped : skipSpaces text = char :: rest) : isSpace char = false := by
  have nonempty : text.dropWhile isSpace ≠ [] := by
    rw [← skipSpaces, skipped]
    exact List.cons_ne_nil _ _
  have first : (text.dropWhile isSpace).head nonempty = char := by
    apply Option.some.inj
    rw [← List.head?_eq_some_head nonempty, ← skipSpaces, skipped]
    rfl
  exact first ▸ List.head_dropWhile_not isSpace nonempty

theorem skipSpaces_skipSpaces (text : Text) : skipSpaces (skipSpaces text) = skipSpaces text :=
  List.dropWhile_idempotent isSpace text

theorem atoi_of_blank {text : Text} (blank : skipSpaces text = []) : atoi text = 0 := by
  rw [atoi, scanInt, blank]
  rfl

theorem atoi_of_scanInt {text rest : Text} {number : Int}
    (scanned : scanInt text = some (number, rest)) : atoi text = number := by
  rw [atoi, scanned]

theorem atoi_skipSpaces (text : Text) : atoi (skipSpaces text) = atoi text := by
  rw [atoi, atoi, scanInt, scanInt, skipSpaces_skipSpaces]

/-! ## The number in a token -/

theorem scanNumber_takeWhile (text : Text) :
    (scanNumber (text.takeWhile (· != 32))).map Prod.fst =
      (scanNumber text).map Prod.fst := by
  have digits : ∀ text : Text,
      (text.takeWhile (· != 32)).takeWhile isDigit = text.takeWhile isDigit := by
    intro text
    induction text with
    | nil => rfl
    | cons char rest inductionHypothesis =>
        by_cases blank : char = 32
        · subst blank
          rfl
        · rw [List.takeWhile_cons_of_pos (by simpa using blank), List.takeWhile_cons,
            List.takeWhile_cons, inductionHypothesis]
  have sign : splitSign (text.takeWhile (· != 32)) =
      ((splitSign text).1, (splitSign text).2.takeWhile (· != 32)) := by
    cases text with
    | nil => rfl
    | cons char rest =>
        by_cases minus : char = 45
        · subst minus
          rfl
        · by_cases plus : char = 43
          · subst plus
            rfl
          · have unsigned : ∀ more : Text, splitSign (char :: more) = (false, char :: more) := by
              intro more
              unfold splitSign
              split
              · rename_i equal
                exact absurd (List.cons.inj equal).1 minus
              · rename_i equal
                exact absurd (List.cons.inj equal).1 plus
              · rfl
            by_cases blank : char = 32
            · subst blank
              rfl
            · rw [List.takeWhile_cons_of_pos (by simpa using blank), unsigned, unsigned,
                List.takeWhile_cons_of_pos (by simpa using blank)]
  simp only [scanNumber, sign, digits]
  split <;> rfl

theorem atoi_takeWhile (text : Text) :
    atoi (text.takeWhile (· != 32)) = 0 ∨ atoi (text.takeWhile (· != 32)) = atoi text := by
  induction text with
  | nil => exact Or.inl rfl
  | cons char rest inductionHypothesis =>
      by_cases blank : char = 32
      · subst blank
        exact Or.inl rfl
      · have kept : (char :: rest).takeWhile (· != 32) = char :: rest.takeWhile (· != 32) :=
          List.takeWhile_cons_of_pos (by simpa using blank)
        by_cases space : isSpace char = true
        · have skips : ∀ more : Text, atoi (char :: more) = atoi more := by
            intro more
            rw [← atoi_skipSpaces (char :: more), skipSpaces,
              List.dropWhile_cons_of_pos space]
            exact atoi_skipSpaces more
          rw [kept, skips, skips]
          exact inductionHypothesis
        · have stays : ∀ more : Text, scanInt (char :: more) = scanNumber (char :: more) := by
            intro more
            rw [scanInt, skipSpaces, List.dropWhile_cons_of_neg space]
          have same := scanNumber_takeWhile (char :: rest)
          rw [kept] at same
          right
          rw [kept, atoi, atoi, stays, stays]
          cases left : scanNumber (char :: rest.takeWhile (· != 32)) with
          | none =>
              rw [left] at same
              cases right : scanNumber (char :: rest) with
              | none => rfl
              | some found => simp [right] at same
          | some found =>
              rw [left] at same
              cases right : scanNumber (char :: rest) with
              | none => simp [right] at same
              | some other =>
                  rw [right] at same
                  exact Option.some.inj same

theorem behind_of_not_mem {part rest front back : Text} {char : UInt8} (absent : char ∉ part)
    (split : part ++ rest = front ++ char :: back) :
    ∃ middle, front = part ++ middle ∧ rest = middle ++ char :: back := by
  rcases List.append_eq_append_iff.mp split with ⟨middle, first, behind⟩ | ⟨middle, inside, behind⟩
  · exact ⟨middle, first, behind⟩
  · cases middle with
    | nil =>
        rw [List.append_nil] at inside
        exact ⟨[], by rw [List.append_nil, inside], behind.symm⟩
    | cons head more =>
        have same : char = head := (List.cons.inj behind).1
        refine absurd ?_ absent
        rw [inside, same]
        exact List.mem_append_right _ (List.mem_cons_self ..)

theorem scanNumber_rest {text rest : Text} {number : Int}
    (scanned : scanNumber text = some (number, rest)) :
    rest = (splitSign text).2.dropWhile isDigit := by
  simp only [scanNumber] at scanned
  split at scanned
  · cases scanned
  · exact (congrArg Prod.snd (Option.some.inj scanned)).symm

theorem scanNumber_split {text rest : Text} {number : Int}
    (scanned : scanNumber text = some (number, rest)) :
    ∃ digits, text = digits ++ rest ∧
      ∀ char ∈ digits, isDigit char = true ∨ char = 43 ∨ char = 45 := by
  have front : ∃ sign, text = sign ++ (splitSign text).2 ∧
      ∀ char ∈ sign, char = 43 ∨ char = 45 := by
    unfold splitSign
    split
    · exact ⟨[45], rfl, fun _ member => Or.inr (List.mem_singleton.mp member)⟩
    · exact ⟨[43], rfl, fun _ member => Or.inl (List.mem_singleton.mp member)⟩
    · exact ⟨[], rfl, fun _ member => absurd member List.not_mem_nil⟩
  obtain ⟨sign, split, signs⟩ := front
  refine ⟨sign ++ (splitSign text).2.takeWhile isDigit, ?_, ?_⟩
  · rw [List.append_assoc, scanNumber_rest scanned, List.takeWhile_append_dropWhile]
    exact split
  · intro char member
    rcases List.mem_append.mp member with inSign | inDigits
    · exact Or.inr (signs char inSign)
    · exact Or.inl (List.mem_takeWhile_imp inDigits)

theorem scanNumber_append {text rest : Text} {number : Int}
    (scanned : scanNumber text = some (number, rest)) (ends : rest ≠ []) (behind : Text) :
    scanNumber (text ++ behind) = some (number, rest ++ behind) := by
  have sign : splitSign (text ++ behind) = ((splitSign text).1, (splitSign text).2 ++ behind) := by
    cases text with
    | nil => cases scanned
    | cons char more =>
        rw [List.cons_append]
        unfold splitSign
        split <;> simp_all
  have restIs := scanNumber_rest scanned
  have more : ((splitSign text).2.dropWhile isDigit).isEmpty = false := by
    rw [← restIs, List.isEmpty_eq_false_iff]
    exact ends
  have fewer : ((splitSign text).2.takeWhile isDigit).length ≠ (splitSign text).2.length := by
    intro all
    have whole := (List.takeWhile_prefix isDigit (l := (splitSign text).2)).eq_of_length all
    have none := List.takeWhile_append_dropWhile (p := isDigit) (l := (splitSign text).2)
    rw [whole, ← restIs, List.append_right_eq_self] at none
    exact ends none
  simp only [scanNumber] at scanned ⊢
  rw [sign]
  simp only [List.takeWhile_append, List.dropWhile_append, if_neg fewer, more,
    Bool.false_eq_true, if_false]
  split at scanned
  · cases scanned
  · rename_i digits
    rw [if_neg digits, ← restIs]
    rw [← restIs] at scanned
    simpa using congrArg Prod.fst (Option.some.inj scanned)

theorem scanInt_append {text rest : Text} {number : Int}
    (scanned : scanInt text = some (number, rest)) (ends : rest ≠ []) (behind : Text) :
    scanInt (text ++ behind) = some (number, rest ++ behind) := by
  have start : skipSpaces text ≠ [] := by
    intro blank
    rw [scanInt, blank] at scanned
    cases scanned
  have same : skipSpaces (text ++ behind) = skipSpaces text ++ behind := by
    rw [skipSpaces, List.dropWhile_append, ← skipSpaces]
    exact if_neg (by rwa [List.isEmpty_iff])
  rw [scanInt, same]
  exact scanNumber_append scanned ends behind

theorem scanWord_split {width : Nat} {text word rest : Text}
    (scanned : scanWord width text = some (word, rest)) :
    ∃ spaces, text = spaces ++ (word ++ rest) ∧ ∀ char ∈ spaces, isSpace char = true := by
  obtain ⟨spaces, split, all⟩ := exists_spaces text
  refine ⟨spaces, ?_, all⟩
  simp only [scanWord] at scanned
  split at scanned
  · cases scanned
  · have parts := Option.some.inj scanned
    have first := congrArg Prod.fst parts
    have second := congrArg Prod.snd parts
    simp only at first second
    have taken : word = (skipSpaces text).take word.length := by
      have front := ((List.takeWhile_prefix (!isSpace ·)
        (l := (skipSpaces text).take width)).trans (List.take_prefix _ _))
      rw [first] at front
      exact List.prefix_iff_eq_take.mp front
    rw [← second, first]
    conv_rhs => rw [taken, List.length_take, Nat.min_eq_left
      (by rw [taken]; exact List.length_take_le' _ _), List.take_append_drop]
    exact split

/-! ## Tokens -/

theorem strtok_token {text token rest : Text} (found : strtok text = some (token, rest)) :
    token = (text.dropWhile (· == 32)).takeWhile (· != 32) := by
  simp only [strtok] at found
  split at found
  · cases found
  · exact (congrArg Prod.fst (Option.some.inj found)).symm

theorem strtok_parts {text token rest : Text} (found : strtok text = some (token, rest)) :
    ∃ lead, (∀ char ∈ lead, char = 32) ∧ 32 ∉ token ∧
      (text = lead ++ token ∧ rest = [] ∨ text = lead ++ (token ++ 32 :: rest)) := by
  have tokenIs := strtok_token found
  have left : rest = ((text.dropWhile (· == 32)).dropWhile (· != 32)).drop 1 := by
    simp only [strtok] at found
    split at found
    · cases found
    · exact (congrArg Prod.snd (Option.some.inj found)).symm
  have whole : text = text.takeWhile (· == 32) ++
      (token ++ (text.dropWhile (· == 32)).dropWhile (· != 32)) := by
    rw [tokenIs, List.takeWhile_append_dropWhile, List.takeWhile_append_dropWhile]
  refine ⟨text.takeWhile (· == 32), ?_, ?_, ?_⟩
  · intro char member
    simpa using List.mem_takeWhile_imp member
  · intro member
    rw [tokenIs] at member
    simpa using List.mem_takeWhile_imp member
  · cases tail : (text.dropWhile (· == 32)).dropWhile (· != 32) with
    | nil =>
        rw [tail] at left whole
        left
        rw [List.append_nil] at whole
        exact ⟨whole, left⟩
    | cons char more =>
        have head := List.head?_dropWhile_not (· != 32) (text.dropWhile (· == 32))
        rw [tail] at head
        have blank : char = 32 := by simpa using head
        rw [tail, blank] at whole
        rw [tail, List.drop_one, List.tail_cons] at left
        right
        rw [left]
        exact whole

theorem strtok_rest {text token rest : Text} (found : strtok text = some (token, rest)) :
    rest = [] ∨ ∃ front, text = front ++ 32 :: rest := by
  obtain ⟨lead, -, -, ⟨-, empty⟩ | split⟩ := strtok_parts found
  · exact Or.inl empty
  · exact Or.inr ⟨lead ++ token, by rw [List.append_assoc]; exact split⟩

theorem strtok_of_head {lead text : Text} (blanks : ∀ char ∈ lead, char = 32)
    (nonempty : text ≠ []) (solid : ∀ char ∈ text.head?, char ≠ 32) :
    strtok (lead ++ text) =
      some (text.takeWhile (· != 32), (text.dropWhile (· != 32)).drop 1) := by
  have first : (lead ++ text).dropWhile (· == 32) = text := by
    rw [List.dropWhile_append_of_pos fun char member => by simp [blanks char member]]
    cases text with
    | nil => rfl
    | cons char rest =>
        have other := solid char rfl
        exact List.dropWhile_cons_of_neg (by simpa using other)
  simp only [strtok, first, if_neg nonempty]

theorem strtok_of_parts {lead token : Text} (rest : Text) (blanks : ∀ char ∈ lead, char = 32)
    (nonempty : token ≠ []) (absent : 32 ∉ token) :
    strtok (lead ++ (token ++ 32 :: rest)) = some (token, rest) := by
  have all : ∀ char ∈ token, (char != 32) = true := by
    intro char member
    simp only [bne_iff_ne]
    rintro rfl
    exact absent member
  have solid : ∀ char ∈ (token ++ 32 :: rest).head?, char ≠ 32 := by
    intro char first
    cases token with
    | nil => exact absurd rfl nonempty
    | cons other token =>
        obtain rfl := Option.some.inj first
        simpa using all other (List.mem_cons_self ..)
  rw [strtok_of_head blanks (List.append_ne_nil_of_left_ne_nil nonempty _) solid,
    List.takeWhile_append_of_pos all, List.dropWhile_append_of_pos all]
  simp

theorem atoi_dropBlanks (text : Text) : atoi (text.dropWhile (· == 32)) = atoi text := by
  have all : ∀ char ∈ text.takeWhile (· == 32), isSpace char = true := by
    intro char member
    have blank := List.mem_takeWhile_imp member
    simp only [beq_iff_eq] at blank
    rw [blank]
    rfl
  have split : text = text.takeWhile (· == 32) ++ text.dropWhile (· == 32) :=
    List.takeWhile_append_dropWhile.symm
  rw [← atoi_skipSpaces text, split, skipSpaces_append all, atoi_skipSpaces, ← split]

theorem atoi_of_strtok {text token rest : Text} (found : strtok text = some (token, rest)) :
    atoi token = 0 ∨ atoi token = atoi text := by
  rw [strtok_token found]
  rcases atoi_takeWhile (text.dropWhile (· == 32)) with none | some_
  · exact Or.inl none
  · rw [some_, atoi_dropBlanks]
    exact Or.inr rfl

end Cmput313.CText
