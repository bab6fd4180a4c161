import Cmput313.Lib.Framing
import Cmput313.Ttt.ClientLoop
import Cmput313.Ttt.TurnMessages
import Mathlib.Data.List.Sublists

/-!
# The stream of commands to a client

The server ends each command with a NUL, and the client takes what one `recv` returns
for one command.  It acts on the commands that were sent just where each has results of
`recv` of its own and the client does not leave before the last one.
-/

set_option autoImplicit false

namespace Cmput313.Ttt.Part2

open Cmput313.CText Cmput313.Framing

/-! ## Texts of commands -/

/-- One call of `server2_sendGameState`: nothing stands behind the number of a MARK, and
the text is one that the server had in its buffer of 256. -/
structure Sent where
  command : ServerCommand
  text : Text
  tells : Tells command text
  plain : ∀ n, command = .mark n → Plain text
  noNul : cText text = text
  short : text.length ≤ 255

def Sent.message (sent : Sent) : ServerCommand × Text := (sent.command, sent.text)

def Sent.bytes (sent : Sent) : Text := gameState sent.text

theorem Sent.bytes_eq (sent : Sent) : sent.bytes = sent.text ++ [0] := by
  have short := sent.short
  rw [Sent.bytes, gameState, sent.noNul, List.take_of_length_le (by omega)]

theorem flatten_bytes (sent : List Sent) :
    (sent.map Sent.bytes).flatten = stream 0 (sent.map Sent.message) := by
  induction sent with
  | nil => rfl
  | cons first rest inductionHypothesis =>
      rw [List.map_cons, List.map_cons, List.flatten_cons, stream_cons, inductionHypothesis,
        first.bytes_eq]
      rfl

/-! ## What a part of a text is understood as -/

theorem understood_mark_plain_iff {text part : Text} {n : Int} (plain : Plain text)
    (front : part <+: text) : understood part = some (.mark n) ↔ Tells (.mark n) part := by
  obtain ⟨rest, number, tail, rfl, numberScanned, blank⟩ := plain.scanned
  have begins : markWord ++ [32] <+: markWord ++ 32 :: rest := ⟨rest, rfl⟩
  rw [understood_mark_iff]
  constructor
  · intro reads
    obtain ⟨spaces, behind, _, split, -, behindScanned, -⟩ := scanCommand_parts reads
    have some_ : behind ≠ [] := by
      rintro rfl
      cases behindScanned
    have long : (markWord ++ [32]).length ≤ part.length := by
      have more := List.length_pos_of_ne_nil some_
      have word : markWord.length = 4 := rfl
      rw [split]
      simp only [List.length_append, List.length_singleton]
      omega
    have starts := List.prefix_of_prefix_length_le begins front long
    refine ⟨starts, ?_⟩
    obtain ⟨more, rfl⟩ := starts
    rw [List.append_assoc, List.singleton_append] at reads
    obtain ⟨left, scanned, -⟩ := scanCommand_mark_iff.mp reads
    exact congrArg (Option.map Prod.fst) scanned
  · rintro ⟨⟨more, rfl⟩, reads⟩
    rw [List.append_assoc, List.singleton_append] at reads front ⊢
    obtain ⟨⟨value, left⟩, scanned, same⟩ := Option.map_eq_some_iff.mp reads
    obtain rfl : value = n := same
    refine scanCommand_mark_iff.mpr ⟨left, scanned, ?_⟩
    by_cases ends : left = []
    · rw [ends]
      rfl
    · -- the whole number is in the part, and blanks are behind it
      obtain ⟨behind, whole⟩ := front
      have restIs : 32 :: rest = (32 :: more) ++ behind := by simpa [markWord] using whole.symm
      have longer := scanInt_append (show scanInt (32 :: more) = some (value, left) from scanned)
        ends behind
      rw [← restIs, numberScanned, Option.some_inj, Prod.mk.injEq] at longer
      have all := List.dropWhile_eq_nil_iff.mp (longer.2 ▸ blank)
      exact skipSpaces_of_all fun char member => all char (List.mem_append_left _ member)

/-! ## Inside of a text -/

def initials : Text := [77, 84, 87, 76, 68]

theorem exists_initial {part : Text} {command : ServerCommand}
    (reads : understood part = some command) : ∃ char ∈ part, char ∈ initials := by
  cases command with
  | mark n =>
      obtain ⟨spaces, behind, _, rfl, -⟩ := scanCommand_parts (understood_mark_iff.mp reads)
      exact ⟨77, by simp [markWord], by decide⟩
  | _ =>
      have word : part = _ := (understood_word_iff (by intro n; exact nofun)).mp reads
      rw [word]
      decide

theorem plain_tail {text : Text} (plain : Plain text) :
    ∀ char ∈ text.tail, char ∉ initials := by
  obtain ⟨rest, number, tail, rfl, scanned, blank⟩ := plain.scanned
  obtain ⟨spaces, split, allSpaces⟩ := exists_spaces (32 :: rest)
  obtain ⟨digits, digitsSplit, allDigits⟩ := scanNumber_split scanned
  have allTail := List.dropWhile_eq_nil_iff.mp blank
  rw [digitsSplit] at split
  intro char member initial
  have letter : ¬ isSpace char = true ∧ ¬ (isDigit char = true ∨ char = 43 ∨ char = 45) ∧
      char ∉ markWord.tail := by
    simp only [initials, List.mem_cons, List.not_mem_nil, or_false] at initial
    rcases initial with rfl | rfl | rfl | rfl | rfl <;> decide
  have parts : char ∈ markWord.tail ∨ char ∈ spaces ∨ char ∈ digits ∨ char ∈ tail := by
    have inside : char ∈ markWord.tail ++ (32 :: rest) := member
    rwa [split, List.mem_append, List.mem_append, List.mem_append] at inside
  rcases parts with word | space | digit | behind
  · exact letter.2.2 word
  · exact letter.1 (allSpaces char space)
  · exact letter.2.1 (allDigits char digit)
  · exact letter.1 (allTail char behind)

def words : List Text := [turnWord, waitWord, winWord, loseWord, drawWord]

theorem understood_inside_word : ∀ word ∈ words, ∀ part ∈ word.tail.sublists,
    understood part = none := by
  decide

theorem Sent.mark_or_word (sent : Sent) : (∃ n, sent.command = .mark n) ∨
    ((∀ n, sent.command ≠ .mark n) ∧ sent.text ∈ words) := by
  have tells := sent.tells
  cases command : sent.command with
  | mark n => exact Or.inl ⟨n, rfl⟩
  | _ =>
      rw [command] at tells
      rw [show sent.text = _ from tells]
      exact Or.inr ⟨by intro n; exact nofun, by decide⟩

theorem Sent.inside (sent : Sent) {front part : Text} (begun : front ≠ [])
    (within : front ++ part <+: sent.text) : understood part = none := by
  have inTail : part <:+: sent.text.tail := by
    obtain ⟨char, more, rfl⟩ := List.exists_cons_of_ne_nil begun
    obtain ⟨behind, split⟩ := within
    exact ⟨more, behind, by rw [← split]; rfl⟩
  rcases sent.mark_or_word with ⟨n, mark⟩ | ⟨-, word⟩
  · cases reads : understood part with
    | none => rfl
    | some command =>
        obtain ⟨char, member, initial⟩ := exists_initial reads
        exact absurd initial (plain_tail (sent.plain n mark) char (inTail.subset member))
  · exact understood_inside_word _ word _ (List.mem_sublists.mpr inTail.sublist)

theorem Sent.enough (sent : Sent) {part : Text} (front : part <+: sent.text) :
    understood part = some sent.command ↔ Tells sent.command part := by
  rcases sent.mark_or_word with ⟨n, mark⟩ | ⟨word, -⟩
  · rw [mark]
    exact understood_mark_plain_iff (sent.plain n mark) front
  · exact understood_word_iff word

theorem Sent.proper (sent : Sent) : Proper 0 understood Tells sent.message where
  closed := by
    intro member
    rw [Sent.message, ← sent.noNul] at member
    exact absurd (ne_zero_of_mem_cText member) (by decide)
  enough := fun _ front => sent.enough front
  whole := (sent.enough List.prefix_rfl).mpr sent.tells
  inside := fun _ _ begun within => sent.inside begun within

/-! ## The loop -/

/-- None of the commands is a result, and the client's own board is undecided behind
each of them. -/
def Stays : TicTacToe → List (Option Line) → List ServerCommand → Prop
  | _, _, [] => True
  | t, stdin, command :: later =>
      ¬ command.IsResult ∧ decided (obey t stdin command).1 = false ∧
        Stays (obey t stdin command).1 (obey t stdin command).2 later

/-- The commands up to the one behind which the client leaves. -/
def actsOn : TicTacToe → List (Option Line) → List ServerCommand → List ServerCommand
  | _, _, [] => []
  | t, stdin, command :: later =>
      if command.IsResult ∨ decided (obey t stdin command).1 = true then [command]
      else command :: actsOn (obey t stdin command).1 (obey t stdin command).2 later

theorem actsOn_prefix (commands : List ServerCommand) : ∀ (t : TicTacToe)
    (stdin : List (Option Line)), actsOn t stdin commands <+: commands := by
  induction commands with
  | nil => exact fun _ _ => List.prefix_rfl
  | cons command later inductionHypothesis =>
      intro t stdin
      rw [actsOn]
      split
      · exact ⟨later, rfl⟩
      · exact List.cons_prefix_cons.mpr ⟨rfl, inductionHypothesis _ _⟩

theorem actsOn_eq_self_iff (commands : List ServerCommand) : ∀ (t : TicTacToe)
    (stdin : List (Option Line)),
    actsOn t stdin commands = commands ↔ Stays t stdin commands.dropLast := by
  induction commands with
  | nil => exact fun _ _ => iff_of_true rfl trivial
  | cons command later inductionHypothesis =>
      intro t stdin
      cases later with
      | nil =>
          rw [actsOn]
          split
          · exact iff_of_true rfl trivial
          · exact iff_of_true rfl trivial
      | cons next more =>
          rw [actsOn, List.dropLast_cons_cons, Stays]
          split
          · rename_i leaves
            refine iff_of_false (by simp) ?_
            rintro ⟨noResult, undecided, -⟩
            exact leaves.elim noResult (by rw [undecided]; exact nofun)
          · rename_i stays
            obtain ⟨noResult, undecided⟩ := not_or.mp stays
            rw [List.cons_eq_cons, inductionHypothesis]
            exact ⟨fun rest => ⟨noResult, by simpa using undecided, rest.2⟩,
              fun all => ⟨rfl, all.2.2⟩⟩

def heardOf (results : List Recv) : List ServerCommand :=
  heard 0 understood (results.map Recv.bytes)

theorem first_eq_cText (piece : Text) : first 0 piece = cText piece := by
  rw [first, cText]
  congr 1
  funext char
  by_cases nul : char = 0
  · rw [nul]; rfl
  · simp [nul]

theorem heardOf_cons (result : Recv) (later : List Recv) :
    heardOf (result :: later) =
      (understood (cText result.buffer)).toList ++ heardOf later := by
  rw [heardOf, List.map_cons, heard_cons, first_eq_cText, result.cText_buffer]
  rfl

theorem client2RunGame_acted (results : List Recv) : ∀ {t : TicTacToe}
    (stdin : List (Option Line)), decided t = false →
    (client2RunGame t stdin results).acted = actsOn t stdin (heardOf results) := by
  induction results with
  | nil => exact fun _ _ => rfl
  | cons result later inductionHypothesis =>
      intro t stdin undecided
      rw [heardOf_cons]
      cases reads : understood (cText result.buffer) with
      | none =>
          rw [client2RunGame_silent stdin later undecided reads]
          exact inductionHypothesis stdin undecided
      | some command =>
          rw [Option.toList_some, List.singleton_append, actsOn]
          by_cases isResult : command.IsResult
          · rw [client2RunGame_result stdin later isResult reads, if_pos (Or.inl isResult)]
          · rw [client2RunGame_obeys stdin later isResult reads]
            cases own : ownAnnouncement (obey t stdin command).1 with
            | some announcement =>
                have isDecided : decided (obey t stdin command).1 = true := by
                  by_contra undecidedStill
                  rw [Bool.not_eq_true] at undecidedStill
                  rw [ownAnnouncement_eq_none_iff.mpr undecidedStill] at own
                  cases own
                rw [if_pos (Or.inr isDecided)]
            | none =>
                have goesOn := ownAnnouncement_eq_none_iff.mp own
                have stays : ¬ (command.IsResult ∨ decided (obey t stdin command).1 = true) := by
                  rw [goesOn]
                  exact not_or.mpr ⟨isResult, nofun⟩
                rw [if_neg stays]
                exact congrArg _ (inductionHypothesis _ goesOn)

/-! ## The stream as a whole -/

theorem decided_tttNew : decided tttNew = false := by decide

theorem proper_messages (sent : List Sent) :
    ∀ message ∈ sent.map Sent.message, Proper 0 understood Tells message := by
  intro message member
  obtain ⟨one, -, rfl⟩ := List.mem_map.mp member
  exact one.proper

theorem pieces_ne_nil (results : List Recv) : ∀ piece ∈ results.map Recv.bytes, piece ≠ [] := by
  intro piece member
  obtain ⟨result, -, rfl⟩ := List.mem_map.mp member
  exact result.some_

/-- The client acts on what was sent just where each command has results of its own, the
first of which tells it, and the client does not leave before the last command. -/
theorem client2RunGame_acts_on_sent_iff (stdin : List (Option Line)) (sent : List Sent)
    (results : List Recv)
    (segments : (results.map Recv.bytes).flatten = (sent.map Sent.bytes).flatten) :
    (client2RunGame tttNew stdin results).acted = sent.map Sent.command ↔
      Aligned 0 Tells (sent.map Sent.message) (results.map Recv.bytes) ∧
        Stays tttNew stdin (sent.map Sent.command).dropLast := by
  have proper := proper_messages sent
  have some_ := pieces_ne_nil results
  rw [flatten_bytes] at segments
  have few := length_heard_le (arrives_start proper some_ segments)
  have hears := heard_eq_iff proper some_ segments
  have commands : (sent.map Sent.message).map Prod.fst = sent.map Sent.command := by
    rw [List.map_map]
    rfl
  rw [commands] at hears
  rw [client2RunGame_acted results stdin decided_tttNew, ← hears, ← actsOn_eq_self_iff, heardOf]
  constructor
  · intro acts
    have front := actsOn_prefix (heard 0 understood (results.map Recv.bytes)) tttNew stdin
    rw [acts] at front
    rw [List.length_map, ← List.length_map (f := Sent.command)] at few
    have all := front.eq_of_length_le few
    rw [← all] at acts
    exact ⟨all.symm, acts⟩
  · rintro ⟨all, acts⟩
    rw [all, acts]

def sentWait : Sent where
  command := .wait
  text := waitWord
  tells := rfl
  plain := by intro n; exact nofun
  noNul := by decide
  short := by decide

def sentTurn : Sent where
  command := .turn
  text := turnWord
  tells := rfl
  plain := by intro n; exact nofun
  noNul := by decide
  short := by decide

def sentMarkFive : Sent where
  command := .mark 5
  text := markFive.text
  tells := by decide
  plain := by
    intro n _
    exact ⟨by decide, by decide⟩
  noNul := by decide
  short := by decide

/-- A command that one `recv` returns as it was sent. -/
def Sent.alone (sent : Sent) : Recv where
  bytes := sent.bytes
  some_ := by
    rw [sent.bytes_eq]
    exact List.append_ne_nil_of_right_ne_nil _ (List.cons_ne_nil _ _)
  fits := by
    have short := sent.short
    rw [sent.bytes_eq, List.length_append, List.length_singleton]
    omega

theorem aligned_alone (sent : List Sent) :
    Aligned 0 Tells (sent.map Sent.message) ((sent.map Sent.alone).map Recv.bytes) := by
  have bytes : (sent.map Sent.alone).map Recv.bytes =
      (sent.map Sent.message).map fun message => message.2 ++ [0] := by
    rw [List.map_map, List.map_map]
    exact List.map_congr_left fun one _ => one.bytes_eq
  rw [bytes]
  exact aligned_whole (proper_messages sent)

theorem alone_acts_on_sent :
    (client2RunGame tttNew [] ([sentWait, sentMarkFive, sentTurn].map Sent.alone)).acted =
      [.wait, .mark 5, .turn] :=
  (client2RunGame_acts_on_sent_iff [] [sentWait, sentMarkFive, sentTurn] _ rfl).mpr
    ⟨aligned_alone _, by decide, by decide, by decide, by decide, trivial⟩

/-- One `recv` returns the opponent's move together with the TURN behind it. -/
def markFiveAndTurn : Recv where
  bytes := sentMarkFive.bytes ++ sentTurn.bytes
  some_ := by decide
  fits := by decide

/-- The TURN is lost: the client waits for the server, which waits for its move. -/
theorem together_not_acts_on_sent :
    ([sentWait.alone, markFiveAndTurn].map Recv.bytes).flatten =
        ([sentWait, sentMarkFive, sentTurn].map Sent.bytes).flatten ∧
      (client2RunGame tttNew [] [sentWait.alone, markFiveAndTurn]).acted ≠
        [sentWait, sentMarkFive, sentTurn].map Sent.command := by
  decide

end Cmput313.Ttt.Part2
