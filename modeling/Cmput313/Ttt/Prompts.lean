import Cmput313.Lib.Prompting
import Cmput313.Lib.TextFile
import Cmput313.Ttt.Part1

/-!
# Prompts that do not look for the end of the input

`server_handleServerMove` and `client2_handleRoomSelection` read with `fgets` until a
line is good.  Both take a failed read for a bad line.
-/

set_option autoImplicit false

namespace Cmput313.Ttt

open Cmput313.CText Cmput313.Prompting

structure Connection where
  clientSocket : Int
  broken : Bool
  sent : List Text

def Connection.send (connection : Connection) (bytes : Text) : Connection :=
  if connection.broken then connection
  else { connection with sent := connection.sent ++ [bytes] }

def stdinLines (input : Text) : List Text := fgetsLines 16 input

def commandOf (chars : Text) : Text := (cText chars).takeWhile (· != 10)

/-! ## The operator's move -/

namespace Part1

/-- What `server_handleServerMove` accepts of a line: the command that it sends to the
client, the structure, and whether it exits. -/
def acceptMove (t : TicTacToe) (chars : Text) : Option (Text × TicTacToe × Bool) :=
  match serverHandleServerMove t (commandOf chars) with
  | .again => none
  | .sends command t exits => some (command, t, exits)

/-- The whole function, for at most `reads` reads of the input: the structure and the
connection, whether it exits, and the lines that are left. -/
def serverHandleServerMoveOn (t : TicTacToe) (connection : Connection) (input : Text)
    (reads : Nat) : Option (TicTacToe × Connection × Bool × List Text) := do
  let ((command, t, exits), rest) ← prompt (acceptMove t) reads (stdinLines input)
  return (t, connection.send (gameState command), exits, rest)

/-- A word and the number of a free cell, and nothing behind them. -/
def NamesFreeCell (t : TicTacToe) (command : Text) : Prop :=
  ∃ cmd n, scanCommand command = some (cmd, n) ∧ (1 ≤ n ∧ n ≤ 9) ∧
    t.board (cellOf n).1 (cellOf n).2 = none

theorem acceptMove_isSome_iff {t : TicTacToe} {chars : Text} :
    (acceptMove t chars).isSome = true ↔ NamesFreeCell t (commandOf chars) := by
  rw [acceptMove, serverHandleServerMove, NamesFreeCell]
  cases scanned : scanCommand (commandOf chars) with
  | none => simp
  | some found =>
      obtain ⟨cmd, n⟩ := found
      have legal := @tttMakeMove_made_iff t n
      cases made : (tttMakeMove t n).1 with
      | false =>
          rw [made] at legal
          refine iff_of_false (by simp [made]) ?_
          rintro ⟨other, m, same, conditions⟩
          obtain ⟨rfl, rfl⟩ := Prod.mk.inj (Option.some.inj same)
          exact Bool.noConfusion (legal.mpr conditions)
      | true =>
          refine iff_of_true (by simp [made]) ⟨cmd, n, rfl, legal.mp made⟩

end Part1

/-! ## The room -/

namespace Part2

def joinFormat : Text := [74, 79, 73, 78]

/-- `sscanf(roomCommand, "JOIN %d", &roomId) == 1`. -/
def scanJoin (roomCommand : Text) : Option Int :=
  if joinFormat <+: roomCommand then (scanInt (roomCommand.drop 4)).map Prod.fst else none

def acceptRoom (chars : Text) : Option Text :=
  (scanJoin (cText chars)).map fun _ => cText chars

/-- Nothing is sent without a socket. -/
def client2SendCommand (connection : Connection) (cmd : Text) : Connection :=
  if connection.clientSocket < 0 then connection else connection.send cmd

def client2HandleRoomSelection (connection : Connection) (input : Text) (reads : Nat) :
    Option (Connection × List Text) := do
  let (roomCommand, rest) ← prompt acceptRoom reads (stdinLines input)
  return (client2SendCommand connection roomCommand, rest)

def NamesRoom (roomCommand : Text) : Prop := ∃ roomId, scanJoin roomCommand = some roomId

theorem acceptRoom_isSome_iff {chars : Text} :
    (acceptRoom chars).isSome = true ↔ NamesRoom (cText chars) := by
  rw [acceptRoom, Option.isSome_map, Option.isSome_iff_exists, NamesRoom]

end Part2

/-! ## Inputs that end -/

def MovePromptFinishes (t : TicTacToe) (connection : Connection) (input : Text) : Prop :=
  ∃ reads, (Part1.serverHandleServerMoveOn t connection input reads).isSome = true

def RoomPromptFinishes (connection : Connection) (input : Text) : Prop :=
  ∃ reads, (Part2.client2HandleRoomSelection connection input reads).isSome = true

theorem movePromptFinishes_iff {t : TicTacToe} {connection : Connection} {input : Text} :
    MovePromptFinishes t connection input ↔
      Finishes (Part1.acceptMove t) (stdinLines input) := by
  refine exists_congr fun reads => ?_
  rw [Part1.serverHandleServerMoveOn]
  cases prompt (Part1.acceptMove t) reads (stdinLines input) <;> rfl

theorem roomPromptFinishes_iff {connection : Connection} {input : Text} :
    RoomPromptFinishes connection input ↔ Finishes Part2.acceptRoom (stdinLines input) := by
  refine exists_congr fun reads => ?_
  rw [Part2.client2HandleRoomSelection]
  cases prompt Part2.acceptRoom reads (stdinLines input) <;> rfl

/-- Each loop ends just where one line of the input is good for it. -/
theorem prompts_finish_iff (t : TicTacToe) (connection : Connection) (input : Text) :
    (MovePromptFinishes t connection input ↔
      ∃ chars ∈ stdinLines input, Part1.NamesFreeCell t (commandOf chars)) ∧
    (RoomPromptFinishes connection input ↔
      ∃ chars ∈ stdinLines input, Part2.NamesRoom (cText chars)) := by
  constructor
  · rw [movePromptFinishes_iff, finishes_iff]
    exact exists_congr fun chars => and_congr_right fun _ => Part1.acceptMove_isSome_iff
  · rw [roomPromptFinishes_iff, finishes_iff]
    exact exists_congr fun chars => and_congr_right fun _ => Part2.acceptRoom_isSome_iff

/-- Nothing is typed before the end of the input. -/
theorem emptyInput_prompts_not_finish :
    ¬ ∀ (t : TicTacToe) (connection : Connection) (input : Text),
      MovePromptFinishes t connection input ∧ RoomPromptFinishes connection input := by
  intro always
  have ends := (always tttNew ⟨4, false, []⟩ []).2
  rw [roomPromptFinishes_iff, finishes_iff] at ends
  obtain ⟨chars, member, -⟩ := ends
  cases member

end Cmput313.Ttt
