import Cmput313.Lib.CText
import Cmput313.Ttt.Board

/-!
# Commands

What both parts of the game share: the lines typed at a terminal, the command that
`sscanf` finds in a text, and the words of the protocol.
-/

set_option autoImplicit false

namespace Cmput313.Ttt

open Cmput313.CText

def markWord : Text := [77, 65, 82, 75]

/-- What one `fgets` into 16 characters returns. -/
structure Line where
  chars : Text
  fits : chars.length ≤ 15
  ends : 10 ∉ chars.dropLast

def Line.text (line : Line) : Text := cText line.chars

/-- `command` after its newline is overwritten. -/
def Line.command (line : Line) : Text := line.text.takeWhile (· != 10)

/-- `sscanf(_, "%16s %d %99s", cmd, &n, extra) == 2`: a word, a number, and nothing
behind them. -/
def scanCommand (text : Text) : Option (Text × Int) := do
  let (cmd, rest) ← scanWord 16 text
  let (n, rest) ← scanInt rest
  if skipSpaces rest = [] then some (cmd, n) else none

def gameState (cmd : Text) : Text := (cText cmd).take 1023 ++ [0]

theorem cText_line (line : Line) : cText line.text = line.text := cText_cText line.chars

theorem length_text_le (line : Line) : line.text.length ≤ 15 :=
  Nat.le_trans (List.takeWhile_prefix (· != 0)).length_le line.fits

theorem cText_gameState {cmd : Text} (text : cText cmd = cmd) (short : cmd.length ≤ 1023) :
    cText (gameState cmd) = cmd := by
  have noNul : ∀ char ∈ cmd, (char != 0) = true := by
    intro char member
    rw [← text] at member
    exact ne_zero_of_mem_cText member
  rw [gameState, text, List.take_of_length_le short, cText, List.takeWhile_append_of_pos noNul]
  exact List.append_nil _

def markFive : Line where
  chars := [77, 65, 82, 75, 32, 53, 10]
  fits := by decide
  ends := by decide

def markOne : Line where
  chars := [77, 65, 82, 75, 32, 49, 10]
  fits := by decide
  ends := by decide

theorem scanCommand_parts {text cmd : Text} {n : Int}
    (scanned : scanCommand text = some (cmd, n)) :
    ∃ spaces behind rest, text = spaces ++ (cmd ++ behind) ∧
      (∀ char ∈ spaces, isSpace char = true) ∧ scanInt behind = some (n, rest) ∧
      skipSpaces rest = [] := by
  obtain ⟨⟨word, behind⟩, wordScanned, scanned⟩ := Option.bind_eq_some_iff.mp scanned
  obtain ⟨⟨number, rest⟩, numberScanned, scanned⟩ := Option.bind_eq_some_iff.mp scanned
  simp only at scanned numberScanned
  split at scanned
  · rename_i blank
    have parts := Option.some.inj scanned
    have first : word = cmd := congrArg Prod.fst parts
    have second : number = n := congrArg Prod.snd parts
    subst first second
    obtain ⟨spaces, split, all⟩ := scanWord_split wordScanned
    exact ⟨spaces, behind, rest, split, all, numberScanned, blank⟩
  · cases scanned

end Cmput313.Ttt
