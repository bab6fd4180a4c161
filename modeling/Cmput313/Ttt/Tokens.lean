import Cmput313.Ttt.Replicas

/-!
# Two parsers of one command

The client of part 1 reads its lines with `sscanf`, for which any white space separates;
the server splits what it receives at blanks.  Both find the same number just where
blanks stand where the server needs them, and nowhere else.
-/

set_option autoImplicit false

namespace Cmput313.Ttt.Part1

open Cmput313.CText

/-- The number that `server_runGame` passes to `ttt_makeMove`, if it finds both words and
the first of them is not `TIMEOUT`. -/
def tokenMove (buffer : Text) : Option Int :=
  match strtok (cText buffer) with
  | none => none
  | some (token, rest) =>
      if token = timeoutWord then none
      else (strtok rest).map fun found => atoi found.1

/-- What the loop of the server makes of a message is decided by this number. -/
theorem handleMessage_of_tokenMove {t : TicTacToe} {buffer : Text} {n : Int}
    (found : tokenMove buffer = some n) :
    handleMessage t buffer =
      if (tttMakeMove t n).1 then .plays (tttMakeMove t n).2 (strtokCut (cText buffer))
      else .ignores := by
  rw [tokenMove] at found
  rw [handleMessage]
  cases first : strtok (cText buffer) with
  | none => simp only [first, reduceCtorEq] at found
  | some tokens =>
      obtain ⟨token, rest⟩ := tokens
      simp only [first] at found ⊢
      split at found
      · cases found
      · rename_i other
        rw [if_neg other]
        cases next : strtok rest with
        | none => simp only [next, Option.map_none, reduceCtorEq] at found
        | some tokens =>
            simp only [next, Option.map_some, Option.some.injEq] at found
            simp only [found]

def Blanks (text : Text) : Prop := ∀ char ∈ text, char = 32

def OtherSpaces (text : Text) : Prop := ∀ char ∈ text, isSpace char = true ∧ char ≠ 32

/-- In front of `MARK` other white space may follow blanks but stands in front of none,
and between `MARK` and the number there is one run of blanks. -/
def BlankSeparated (command : Text) : Prop :=
  ∃ lead space before blanks after number,
    command = lead ++ (space ++ (markWord ++ (before ++ (blanks ++ (after ++ number))))) ∧
    Blanks lead ∧ OtherSpaces space ∧ OtherSpaces before ∧ Blanks blanks ∧ blanks ≠ [] ∧
    OtherSpaces after ∧ ∀ char ∈ number.head?, isSpace char = false

theorem OtherSpaces.not_mem {text : Text} (others : OtherSpaces text) : 32 ∉ text :=
  fun member => (others 32 member).2 rfl

theorem Blanks.isSpace {text : Text} (blanks : Blanks text) :
    ∀ char ∈ text, isSpace char = true := by
  intro char member
  rw [blanks char member]
  rfl

theorem otherSpaces_of_not_mem {text : Text} (spaces : ∀ char ∈ text, isSpace char = true)
    (absent : 32 ∉ text) : OtherSpaces text :=
  fun char member => ⟨spaces char member, fun same => absent (same ▸ member)⟩

theorem skipSpaces_of_head {text : Text} (head : ∀ char ∈ text.head?, isSpace char = false) :
    skipSpaces text = text := by
  cases text with
  | nil => rfl
  | cons char rest =>
      have solid := head char rfl
      exact List.dropWhile_cons_of_neg (by simp [solid])

theorem exists_behind_blanks {spaces back lead rest : Text} (blanks : Blanks lead)
    (solid : ∀ char ∈ back.head?, char ≠ 32) (same : spaces ++ back = lead ++ rest) :
    ∃ inner, spaces = lead ++ inner ∧ rest = inner ++ back := by
  rcases List.append_eq_append_iff.mp same with ⟨inner, longer, behind⟩ | ⟨inner, inside, behind⟩
  · cases inner with
    | nil =>
        rw [List.append_nil] at longer
        exact ⟨[], by rw [longer, List.append_nil], behind.symm⟩
    | cons char inner =>
        have blank : char = 32 := by
          refine blanks char ?_
          rw [longer]
          exact List.mem_append_right _ (List.mem_cons_self ..)
        refine absurd blank (solid char ?_)
        rw [behind]
        rfl
  · exact ⟨inner, inside, behind⟩

section Layout

variable {command spaces gap number : Text} {n : Int}

theorem Layout.head (layout : Layout command spaces gap number n) :
    ∀ char ∈ number.head?, isSpace char = false := by
  intro char first
  cases number with
  | nil => cases first
  | cons other rest =>
      have solid := skipSpaces_head layout.start
      obtain rfl := Option.some.inj first
      exact solid

theorem layout_of_parts (scanned : scanCommand command = some (markWord, n))
    (parts : command = spaces ++ (markWord ++ (gap ++ number)))
    (spacesAll : ∀ char ∈ spaces, isSpace char = true)
    (gapAll : ∀ char ∈ gap, isSpace char = true)
    (head : ∀ char ∈ number.head?, isSpace char = false) :
    Layout command spaces gap number n := by
  obtain ⟨lead, behind, tail, split, leadAll, found, blank⟩ := scanCommand_parts scanned
  have word : ∀ more : Text, skipSpaces (markWord ++ more) = markWord ++ more := fun _ => rfl
  have same : markWord ++ behind = markWord ++ (gap ++ number) :=
    calc markWord ++ behind = skipSpaces command := by
          rw [split, skipSpaces_append leadAll, word]
      _ = markWord ++ (gap ++ number) := by rw [parts, skipSpaces_append spacesAll, word]
  have behindIs : behind = gap ++ number := List.append_cancel_left same
  rw [behindIs, scanInt, skipSpaces_append gapAll, skipSpaces_of_head head] at found
  exact ⟨parts, spacesAll, gapAll, skipSpaces_of_head head, tail, found, blank⟩

theorem Layout.atoi_token (layout : Layout command spaces gap number n) {after : Text}
    (others : OtherSpaces after) : atoi ((after ++ number).takeWhile (· != 32)) = n := by
  obtain ⟨tail, scanned, -⟩ := layout.scanned
  have solid : ∀ char ∈ after, (char != 32) = true := by
    intro char member
    simpa using (others char member).2
  have same := scanNumber_takeWhile number
  rw [scanned, Option.map_some, Option.map_eq_some_iff] at same
  obtain ⟨⟨value, behind⟩, found, rfl⟩ := same
  have head : ∀ char ∈ (number.takeWhile (· != 32)).head?, isSpace char = false := by
    intro char first
    rw [List.head?_takeWhile, Option.mem_def, Option.filter_eq_some_iff] at first
    exact layout.head char first.1
  rw [List.takeWhile_append_of_pos solid, ← atoi_skipSpaces,
    skipSpaces_append fun char member => (others char member).1, atoi_skipSpaces]
  apply atoi_of_scanInt
  rw [scanInt, skipSpaces_of_head head]
  exact found

end Layout

theorem exists_run_of_token {white number token later : Text}
    (spaces : ∀ char ∈ white, isSpace char = true)
    (head : ∀ char ∈ number.head?, isSpace char = false)
    (next : strtok (white ++ number) = some (token, later)) (value : atoi token ≠ 0) :
    ∃ blanks after, white = blanks ++ after ∧ Blanks blanks ∧ OtherSpaces after := by
  obtain ⟨lead, leadBlanks, absent, ends⟩ := strtok_parts next
  have split : ∃ more, white ++ number = lead ++ (token ++ more) := by
    rcases ends with ⟨whole, -⟩ | whole
    · exact ⟨[], by rw [List.append_nil]; exact whole⟩
    · exact ⟨_, whole⟩
  obtain ⟨more, whole⟩ := split
  have solid : ∀ char ∈ number.head?, char ≠ 32 := by
    rintro char first rfl
    exact absurd (head 32 first) (by decide)
  obtain ⟨inner, whiteIs, tokenIs⟩ := exists_behind_blanks leadBlanks solid whole
  rw [whiteIs] at spaces
  have innerSpaces : ∀ char ∈ inner, isSpace char = true := fun char member =>
    spaces char (List.mem_append_right _ member)
  refine ⟨lead, inner, whiteIs, leadBlanks, otherSpaces_of_not_mem innerSpaces fun member => ?_⟩
  rcases List.append_eq_append_iff.mp tokenIs with ⟨deep, innerIs, -⟩ | ⟨deep, inToken, -⟩
  · -- the whole token is white space
    refine value (atoi_of_blank (skipSpaces_of_all fun char inToken => innerSpaces char ?_))
    rw [innerIs]
    exact List.mem_append_left _ inToken
  · rw [inToken] at absent
    exact absent (List.mem_append_left _ member)

/-! ## The two directions -/

theorem tokenMove_of_blankSeparated {command : Text} {n : Int} (text : cText command = command)
    (scanned : scanCommand command = some (markWord, n)) (separated : BlankSeparated command) :
    tokenMove command = some n := by
  obtain ⟨lead, space, before, blanks, after, number, parts, leadBlanks, spaceOthers,
    beforeOthers, blanksBlanks, some_, afterOthers, head⟩ := separated
  obtain ⟨blank, blanks, rfl⟩ := List.exists_cons_of_ne_nil some_
  obtain rfl : blank = 32 := blanksBlanks blank (List.mem_cons_self ..)
  have layout : Layout command (lead ++ space) (before ++ 32 :: (blanks ++ after)) number n := by
    refine layout_of_parts scanned ?_ ?_ ?_ head
    · simp [parts]
    · intro char member
      rcases List.mem_append.mp member with inLead | inSpace
      · exact leadBlanks.isSpace char inLead
      · exact (spaceOthers char inSpace).1
    · intro char member
      rcases List.mem_append.mp member with inBefore | later
      · exact (beforeOthers char inBefore).1
      · rw [← List.cons_append] at later
        rcases List.mem_append.mp later with inBlanks | inAfter
        · exact blanksBlanks.isSpace char inBlanks
        · exact (afterOthers char inAfter).1
  have first : strtok command =
      some (space ++ (markWord ++ before), blanks ++ (after ++ number)) := by
    have split : command =
        lead ++ ((space ++ (markWord ++ before)) ++ 32 :: (blanks ++ (after ++ number))) := by
      simp [parts]
    rw [split]
    refine strtok_of_parts _ leadBlanks (by simp [markWord]) ?_
    simp only [List.mem_append, not_or]
    exact ⟨spaceOthers.not_mem, by decide, beforeOthers.not_mem⟩
  have word : space ++ (markWord ++ before) ≠ timeoutWord := by
    intro same
    have member : 75 ∈ timeoutWord := by
      rw [← same]
      simp [markWord]
    exact absurd member (by decide)
  have nonempty : after ++ number ≠ [] := by
    obtain ⟨tail, found, -⟩ := layout.scanned
    refine List.append_ne_nil_of_right_ne_nil _ ?_
    rintro rfl
    cases found
  have solid : ∀ char ∈ (after ++ number).head?, char ≠ 32 := by
    intro char first
    cases after with
    | nil =>
        rintro rfl
        exact absurd (head 32 first) (by decide)
    | cons other rest =>
        obtain rfl := Option.some.inj first
        exact (afterOthers other (List.mem_cons_self ..)).2
  have rest : Blanks blanks := fun char member =>
    blanksBlanks char (List.mem_cons_of_mem _ member)
  simp only [tokenMove, text, first, if_neg word, strtok_of_head rest nonempty solid,
    Option.map_some, layout.atoi_token afterOthers]

/-- Where the second token is a number, the blank behind the first one is a blank of the
gap. -/
theorem Layout.blankSeparated_of_tokens {command spaces gap number : Text} {n : Int}
    (layout : Layout command spaces gap number n) {token rest second later : Text}
    (first : strtok command = some (token, rest)) (next : strtok rest = some (second, later))
    (value : atoi second ≠ 0) : BlankSeparated command := by
  have noNumber : atoi rest ≠ 0 := by
    rcases atoi_of_strtok next with none | same
    · exact absurd none value
    · rw [← same]
      exact value
  obtain ⟨lead, leadBlanks, tokenSolid, ⟨-, empty⟩ | split⟩ := strtok_parts first
  · rw [empty] at next
    cases next
  · have atBlank : command = (lead ++ token) ++ 32 :: rest := by
      rw [List.append_assoc]
      exact split
    obtain ⟨before, afterBlank, gapIs, frontIs, restIs⟩ :=
      (layout.blank_cases atBlank).resolve_left noNumber
    obtain ⟨space, spacesIs, tokenIs⟩ := exists_behind_blanks leadBlanks
      (by rintro char ⟨⟩; decide) frontIs.symm
    rw [tokenIs] at tokenSolid
    simp only [List.mem_append, not_or] at tokenSolid
    rw [restIs] at next
    have gapSpaces := layout.gap
    have leadSpaces := layout.spaces
    rw [gapIs] at gapSpaces
    rw [spacesIs] at leadSpaces
    obtain ⟨blanks, after, behindIs, blanksBlanks, afterOthers⟩ :=
      exists_run_of_token (fun char member => gapSpaces char
        (List.mem_append_right _ (List.mem_cons_of_mem _ member))) layout.head next value
    refine ⟨lead, space, before, 32 :: blanks, after, number, ?_, leadBlanks,
      otherSpaces_of_not_mem (fun char member => leadSpaces char
        (List.mem_append_right _ member)) tokenSolid.1,
      otherSpaces_of_not_mem (fun char member => gapSpaces char
        (List.mem_append_left _ member)) tokenSolid.2.2, ?_, List.cons_ne_nil _ _,
      afterOthers, layout.head⟩
    · rw [layout.parts, spacesIs, gapIs, behindIs]
      simp
    · intro char member
      rcases List.mem_cons.mp member with same | inBlanks
      · exact same
      · exact blanksBlanks char inBlanks

theorem blankSeparated_of_tokenMove {command : Text} {n : Int}
    (text : cText command = command) (scanned : scanCommand command = some (markWord, n))
    (positive : n ≠ 0) (found : tokenMove command = some n) : BlankSeparated command := by
  obtain ⟨spaces, gap, number, layout⟩ := exists_layout scanned
  rw [tokenMove, text] at found
  cases first : strtok command with
  | none => simp only [first, reduceCtorEq] at found
  | some tokens =>
      obtain ⟨token, rest⟩ := tokens
      simp only [first] at found
      split at found
      · cases found
      · obtain ⟨⟨second, later⟩, next, value⟩ := Option.map_eq_some_iff.mp found
        simp only at value
        exact layout.blankSeparated_of_tokens first next (by rw [value]; exact positive)

theorem inputParser_of_scanned {t : TicTacToe} {command : Text} {n : Int}
    (scanned : scanCommand command = some (markWord, n)) (made : (tttMakeMove t n).1 = true) :
    inputParser t command =
      .sends command (tttMakeMove t n).2 (decided (tttMakeMove t n).2) := by
  simp only [inputParser, scanned, if_true, made]

/-- What the client has sent, the server finds to be the same number just where blanks
separate it. -/
theorem tokenMove_iff_blankSeparated {t t' : TicTacToe} {line : Line} {command : Text}
    {exits : Bool} (sends : inputParser t line.command = .sends command t' exits) :
    (∃ n, scanCommand command = some (markWord, n) ∧ tttMakeMove t n = (true, t') ∧
      tokenMove command = some n) ↔ BlankSeparated command := by
  obtain ⟨⟨text, -, n, scanned, move⟩, -⟩ := inputParser_sends sends
  constructor
  · rintro ⟨m, scannedToo, played, found⟩
    have legal := tttMakeMove_made_iff.mp (congrArg Prod.fst played)
    exact blankSeparated_of_tokenMove text scannedToo (by omega) found
  · exact fun separated =>
      ⟨n, scanned, move, tokenMove_of_blankSeparated text scanned separated⟩

def markTabFive : Line where
  chars := [77, 65, 82, 75, 9, 53, 10]
  fits := by decide
  ends := by decide

theorem markOne_tokenMove_iff :
    (∃ n, scanCommand markOne.command = some (markWord, n) ∧
      tttMakeMove tttNew n = (true, (tttMakeMove tttNew 1).2) ∧
      tokenMove markOne.command = some n) ↔ BlankSeparated markOne.command :=
  tokenMove_iff_blankSeparated
    (@inputParser_of_scanned tttNew markOne.command 1 (by decide) (by decide))

/-- The client plays and sends the command, and the server finds no second word. -/
theorem markTabFive_crashes :
    inputParser tttNew markTabFive.command =
        .sends markTabFive.command (tttMakeMove tttNew 5).2 (decided (tttMakeMove tttNew 5).2) ∧
      ¬ ∃ n, scanCommand markTabFive.command = some (markWord, n) ∧
        tokenMove markTabFive.command = some n := by
  refine ⟨inputParser_of_scanned (by decide) (by decide), ?_⟩
  rintro ⟨n, -, found⟩
  have none : tokenMove markTabFive.command = none := by decide
  rw [none] at found
  cases found

end Cmput313.Ttt.Part1
