import Mathlib.Data.Fintype.Basic
import Mathlib.Data.Fintype.Pi

/-!
# The board

`ttt.c`.  A cell is `' '` where it is `none`.
-/

set_option autoImplicit false

namespace Cmput313.Ttt

inductive Player where
  | x
  | o
  deriving DecidableEq

def Player.other : Player → Player
  | .x => .o
  | .o => .x

abbrev Board := Fin 3 → Fin 3 → Option Player

structure TicTacToe where
  board : Board
  currentPlayer : Player
  turnCount : Int
  deriving DecidableEq

def blankBoard : Board := fun _ _ => none

def tttNew : TicTacToe where
  board := blankBoard
  currentPlayer := .x
  turnCount := 0

def convertMove (move : Int) : Int × Int := ((move - 1).tdiv 3, (move - 1).tmod 3)

def Board.mark (board : Board) (row col : Fin 3) (player : Player) : Board :=
  fun i ii => if i = row ∧ ii = col then some player else board i ii

def tttSwitchPlayer (t : TicTacToe) : TicTacToe :=
  { t with currentPlayer := if t.currentPlayer = .x then .o else .x }

/-- Row and column are below 3 where they are used as indices. -/
def tttMakeMove (t : TicTacToe) (move : Int) : Bool × TicTacToe :=
  if move < 1 ∨ move > 9 then (false, t)
  else
    let (row, col) := convertMove move
    let row := Fin.ofNat 3 row.toNat
    let col := Fin.ofNat 3 col.toNat
    if t.board row col ≠ none then (false, t)
    else
      (true, tttSwitchPlayer { t with
        board := t.board.mark row col t.currentPlayer
        turnCount := t.turnCount + 1 })

def tttCheckWin (t : TicTacToe) (player : Player) : Bool :=
  let is (i ii : Fin 3) : Bool := t.board i ii = some player
  (List.finRange 3).any (fun i =>
      (List.finRange 3).all (fun ii => is i ii) || (List.finRange 3).all (fun ii => is ii i)) ||
    (List.finRange 3).all (fun i => is i i) || (List.finRange 3).all (fun i => is i.rev i)

def tttHasWinner (t : TicTacToe) : Bool := tttCheckWin t t.currentPlayer

def tttIsDraw (t : TicTacToe) : Bool := t.turnCount = 9 && !tttHasWinner t

def decided (t : TicTacToe) : Bool :=
  tttCheckWin t .x || tttCheckWin t .o || tttIsDraw t

/-! ## Moves -/

def cellOf (move : Int) : Fin 3 × Fin 3 :=
  (Fin.ofNat 3 (convertMove move).1.toNat, Fin.ofNat 3 (convertMove move).2.toNat)

theorem tttMakeMove_of_illegal {t : TicTacToe} {move : Int}
    (illegal : ¬ ((1 ≤ move ∧ move ≤ 9) ∧
      t.board (cellOf move).1 (cellOf move).2 = none)) :
    tttMakeMove t move = (false, t) := by
  by_cases outside : move < 1 ∨ move > 9
  · rw [tttMakeMove, if_pos outside]
  · have marked : t.board (cellOf move).1 (cellOf move).2 ≠ none :=
      fun free => illegal ⟨by omega, free⟩
    rw [tttMakeMove, if_neg outside]
    exact if_pos marked

theorem tttMakeMove_of_legal {t : TicTacToe} {move : Int}
    (inRange : 1 ≤ move ∧ move ≤ 9)
    (free : t.board (cellOf move).1 (cellOf move).2 = none) :
    tttMakeMove t move = (true, tttSwitchPlayer { t with
      board := t.board.mark (cellOf move).1 (cellOf move).2 t.currentPlayer
      turnCount := t.turnCount + 1 }) := by
  have inside : ¬ (move < 1 ∨ move > 9) := by omega
  rw [tttMakeMove, if_neg inside]
  exact if_neg (not_not.mpr free)

theorem tttMakeMove_made_iff {t : TicTacToe} {move : Int} :
    (tttMakeMove t move).1 = true ↔
      (1 ≤ move ∧ move ≤ 9) ∧ t.board (cellOf move).1 (cellOf move).2 = none := by
  by_cases legal : (1 ≤ move ∧ move ≤ 9) ∧ t.board (cellOf move).1 (cellOf move).2 = none
  · rw [tttMakeMove_of_legal legal.1 legal.2]
    exact ⟨fun _ => legal, fun _ => rfl⟩
  · rw [tttMakeMove_of_illegal legal]
    exact ⟨fun made => Bool.noConfusion made, fun conditions => absurd conditions legal⟩

theorem tttMakeMove_of_not_made {t : TicTacToe} {move : Int}
    (notMade : (tttMakeMove t move).1 ≠ true) : (tttMakeMove t move).2 = t := by
  rw [tttMakeMove_of_illegal fun legal => notMade (tttMakeMove_made_iff.mpr legal)]

theorem tttMakeMove_of_made {t : TicTacToe} {move : Int}
    (made : (tttMakeMove t move).1 = true) :
    (tttMakeMove t move).2 = tttSwitchPlayer { t with
      board := t.board.mark (cellOf move).1 (cellOf move).2 t.currentPlayer
      turnCount := t.turnCount + 1 } := by
  obtain ⟨inRange, free⟩ := tttMakeMove_made_iff.mp made
  rw [tttMakeMove_of_legal inRange free]

theorem tttMakeMove_board_ne_none {t : TicTacToe} {row col : Fin 3}
    (marked : t.board row col ≠ none) (move : Int) :
    (tttMakeMove t move).2.board row col ≠ none := by
  by_cases made : (tttMakeMove t move).1 = true
  · rw [tttMakeMove_of_made made]
    change (if row = (cellOf move).1 ∧ col = (cellOf move).2 then some t.currentPlayer
      else t.board row col) ≠ none
    split
    · exact Option.some_ne_none _
    · exact marked
  · rw [tttMakeMove_of_not_made made]
    exact marked

theorem tttSwitchPlayer_currentPlayer (t : TicTacToe) :
    (tttSwitchPlayer t).currentPlayer ≠ t.currentPlayer := by
  cases player : t.currentPlayer <;> simp [tttSwitchPlayer, player]

end Cmput313.Ttt
