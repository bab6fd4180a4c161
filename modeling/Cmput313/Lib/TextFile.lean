import Cmput313.Lib.CText

/-!
# Lines and words of a text file

A loop over `fgets` that scans each line with `%s` conversions, on the bytes of the
file.  The conversions write into buffers that keep what they held where the line has
no word left.
-/

set_option autoImplicit false

namespace Cmput313.CText

/-! ## Words -/

def scanAnyWord (text : Text) : Option (Text × Text) :=
  let rest := skipSpaces text
  let word := rest.takeWhile (!isSpace ·)
  if word = [] then none else some (word, rest.dropWhile (!isSpace ·))

/-- One `%s` of a running `sscanf` into a buffer of the given size.  Once a conversion
found no word the later ones are not tried; a word that overflows its buffer has no
meaning. -/
def scanString (size : Nat) (buffer : Text) : Option Text → Option (Text × Option Text)
  | none => some (buffer, none)
  | some text =>
      match scanAnyWord text with
      | none => some (buffer, none)
      | some (word, rest) => if word.length < size then some (word, some rest) else none

def words (text : Text) : List Text := (text.splitOnP isSpace).filter (· ≠ [])

theorem words_skipSpaces (text : Text) : words (skipSpaces text) = words text := by
  induction text with
  | nil => rfl
  | cons char rest inductionHypothesis =>
      by_cases space : isSpace char = true
      · have skipped : skipSpaces (char :: rest) = skipSpaces rest :=
          List.dropWhile_cons_of_pos space
        rw [skipped, inductionHypothesis, words, words, List.splitOnP_cons_eq_if_modifyHead, if_pos space]
        simp
      · have kept : skipSpaces (char :: rest) = char :: rest :=
          List.dropWhile_cons_of_neg space
        rw [kept]

theorem words_word_append {word rest : Text} (nonempty : word ≠ [])
    (solid : ∀ char ∈ word, isSpace char = false)
    (ends : ∀ char ∈ rest.head?, isSpace char = true) :
    words (word ++ rest) = word :: words rest := by
  cases rest with
  | nil =>
      rw [List.append_nil, words, List.splitOnP_eq_singleton solid]
      simp [words, nonempty]
  | cons sep rest =>
      have space : isSpace sep = true := ends sep rfl
      rw [words, List.splitOnP_append_cons_of_forall_mem solid sep space, words,
        List.splitOnP_cons_eq_if_modifyHead, if_pos space]
      simp [nonempty]

theorem words_of_scanAnyWord_none {text : Text} (none_ : scanAnyWord text = none) :
    words text = [] := by
  have empty : (skipSpaces text).takeWhile (!isSpace ·) = [] := by
    simpa [scanAnyWord] using none_
  rw [← words_skipSpaces]
  cases skipped : skipSpaces text with
  | nil => rfl
  | cons char rest =>
      have solid := skipSpaces_head skipped
      rw [skipped, List.takeWhile_cons_of_pos (by simp [solid])] at empty
      exact absurd empty (List.cons_ne_nil _ _)

theorem words_of_scanAnyWord_some {text word rest : Text}
    (scanned : scanAnyWord text = some (word, rest)) : words text = word :: words rest := by
  simp only [scanAnyWord, Option.ite_none_left_eq_some, Option.some.injEq, Prod.mk.injEq]
    at scanned
  obtain ⟨nonempty, rfl, rfl⟩ := scanned
  rw [← words_skipSpaces]
  conv_lhs => rw [← List.takeWhile_append_dropWhile (p := (!isSpace ·)) (l := skipSpaces text)]
  apply words_word_append nonempty
  · intro char member
    simpa using List.mem_takeWhile_imp member
  · intro char first
    have stops := List.head?_dropWhile_not (!isSpace ·) (skipSpaces text)
    rw [Option.mem_def.mp first] at stops
    simpa using stops

theorem scanString_eq {size : Nat} (buffer : Text) (input : Option Text)
    (fits : ∀ word ∈ input.elim [] words, word.length < size) :
    ∃ rest, scanString size buffer input =
        some (((input.elim [] words)[0]?).getD buffer, rest) ∧
      rest.elim [] words = (input.elim [] words).tail := by
  cases input with
  | none => exact ⟨none, rfl, rfl⟩
  | some text =>
      simp only [Option.elim_some, scanString] at fits ⊢
      cases scanned : scanAnyWord text with
      | none =>
          rw [words_of_scanAnyWord_none scanned]
          exact ⟨none, rfl, rfl⟩
      | some found =>
          obtain ⟨word, rest⟩ := found
          rw [words_of_scanAnyWord_some scanned] at fits ⊢
          have short := fits word (List.mem_cons_self ..)
          simp only [if_pos short]
          exact ⟨some rest, rfl, rfl⟩

/-! ## Lines -/

/-- The lines of a file, each with its newline; the last one may lack it. -/
def fileLines : Text → List Text
  | [] => []
  | char :: rest =>
      if char = 10 then [char] :: fileLines rest
      else
        match fileLines rest with
        | [] => [[char]]
        | line :: lines => (char :: line) :: lines

/-- What successive calls of `fgets(_, size, _)` read, the first of them behind `line`. -/
def fgetsFrom (size : Nat) (line : Text) : Text → List Text
  | [] => if line = [] then [] else [line]
  | char :: rest =>
      if char = 10 ∨ (line ++ [char]).length + 1 = size then
        (line ++ [char]) :: fgetsFrom size [] rest
      else fgetsFrom size (line ++ [char]) rest

def fgetsLines (size : Nat) (file : Text) : List Text := fgetsFrom size [] file

theorem fileLines_append_newline {line : Text} (rest : Text) (inside : 10 ∉ line) :
    fileLines (line ++ 10 :: rest) = (line ++ [10]) :: fileLines rest := by
  induction line with
  | nil => rw [List.nil_append, fileLines, if_pos rfl, List.nil_append]
  | cons char line inductionHypothesis =>
      rw [List.mem_cons, not_or] at inside
      rw [List.cons_append, fileLines, if_neg (Ne.symm inside.1), inductionHypothesis inside.2]
      rfl

theorem fileLines_of_noNewline {line : Text} (inside : 10 ∉ line) (nonempty : line ≠ []) :
    fileLines line = [line] := by
  induction line with
  | nil => exact absurd rfl nonempty
  | cons char line inductionHypothesis =>
      rw [List.mem_cons, not_or] at inside
      rw [fileLines, if_neg (Ne.symm inside.1)]
      cases line with
      | nil => rfl
      | cons next line => rw [inductionHypothesis inside.2 (List.cons_ne_nil _ _)]

theorem fileLines_append {line rest : Text} (inside : 10 ∉ line) (more : rest ≠ []) :
    ∃ first lines, fileLines (line ++ rest) = first :: lines ∧
      line.length + 1 ≤ first.length := by
  induction line with
  | nil =>
      cases rest with
      | nil => exact absurd rfl more
      | cons char rest =>
          rw [List.nil_append, fileLines]
          split
          · exact ⟨_, _, rfl, Nat.le_refl _⟩
          · cases fileLines rest with
            | nil => exact ⟨_, _, rfl, Nat.le_refl _⟩
            | cons line lines => exact ⟨_, _, rfl, by simp⟩
  | cons char line inductionHypothesis =>
      rw [List.mem_cons, not_or] at inside
      obtain ⟨first, lines, split, longer⟩ := inductionHypothesis inside.2
      rw [List.cons_append, fileLines, if_neg (Ne.symm inside.1), split]
      exact ⟨_, _, rfl, Nat.succ_le_succ longer⟩

theorem fgetsFrom_eq_fileLines {size : Nat} : ∀ {rest line : Text}, 10 ∉ line →
    (∀ read ∈ fileLines (line ++ rest), read.length < size) →
    fgetsFrom size line rest = fileLines (line ++ rest) := by
  intro rest
  induction rest with
  | nil =>
      intro line inside _
      rw [fgetsFrom, List.append_nil]
      by_cases empty : line = []
      · rw [if_pos empty, empty]
        rfl
      · rw [if_neg empty, fileLines_of_noNewline inside empty]
  | cons char rest inductionHypothesis =>
      intro line inside narrow
      rw [fgetsFrom]
      by_cases newline : char = 10
      · subst newline
        rw [fileLines_append_newline rest inside] at narrow ⊢
        rw [if_pos (Or.inl rfl), inductionHypothesis List.not_mem_nil
          fun read member => narrow read (List.mem_cons_of_mem _ member), List.nil_append]
      · have insideToo : 10 ∉ line ++ [char] := by
          simp [inside, Ne.symm newline]
        have again := @inductionHypothesis (line ++ [char]) insideToo
        rw [List.append_assoc, List.singleton_append] at again
        by_cases full : (line ++ [char]).length + 1 = size
        · -- a full buffer is the end of the file
          have last : rest = [] := by
            by_contra more
            obtain ⟨first, lines, split, longer⟩ := fileLines_append insideToo more
            rw [List.append_assoc, List.singleton_append] at split
            have short := narrow first (split ▸ List.mem_cons_self ..)
            omega
          subst last
          rw [if_pos (Or.inr full), fileLines_of_noNewline insideToo (by simp)]
          rfl
        · rw [if_neg (not_or.mpr ⟨newline, full⟩), again narrow]

/-- Lines that fit in the buffer are read one by one. -/
theorem fgetsLines_eq_fileLines {size : Nat} {file : Text}
    (narrow : ∀ line ∈ fileLines file, line.length < size) :
    fgetsLines size file = fileLines file :=
  fgetsFrom_eq_fileLines List.not_mem_nil narrow

end Cmput313.CText
