import Mathlib.Data.Finset.Card
import Mathlib.Data.Fintype.Card
import Mathlib.Data.Fintype.Prod
import Cmput313.Ttt.Board

/-!
# Counting marks

What a move does to the cells of each player, and what any number of moves keep: the
counter of turns, the player to move and the marks of both agree.
-/

set_option autoImplicit false

namespace Cmput313.Ttt

def marked (board : Board) (player : Player) : Finset (Fin 3 × Fin 3) :=
  Finset.univ.filter fun cell => board cell.1 cell.2 = some player

theorem mem_marked {board : Board} {player : Player} {cell : Fin 3 × Fin 3} :
    cell ∈ marked board player ↔ board cell.1 cell.2 = some player := by
  simp [marked]

theorem mark_apply (board : Board) (row col : Fin 3) (player : Player) (cell : Fin 3 × Fin 3) :
    board.mark row col player cell.1 cell.2 =
      if cell = (row, col) then some player else board cell.1 cell.2 := by
  simp [Board.mark, Prod.ext_iff]

section Mark

variable {board : Board} {row col : Fin 3} (player : Player)

theorem marked_mark : marked (board.mark row col player) player =
    insert (row, col) (marked board player) := by
  ext cell
  rw [mem_marked, mark_apply, Finset.mem_insert, mem_marked]
  by_cases here : cell = (row, col)
  · simp [here]
  · simp [here]

theorem marked_mark_other (free : board row col = none) :
    marked (board.mark row col player) player.other = marked board player.other := by
  have differs : player ≠ player.other := by cases player <;> decide
  ext cell
  rw [mem_marked, mark_apply, mem_marked]
  by_cases here : cell = (row, col)
  · simp [here, free, differs]
  · simp [here]

theorem card_marked_mark (free : board row col = none) :
    (marked (board.mark row col player) player).card = (marked board player).card + 1 := by
  rw [marked_mark]
  refine Finset.card_insert_of_notMem ?_
  rw [mem_marked, free]
  exact Option.some_ne_none _ ∘ Eq.symm

end Mark

theorem disjoint_marked (board : Board) : Disjoint (marked board .x) (marked board .o) := by
  rw [Finset.disjoint_left]
  intro cell inX inO
  have same := (mem_marked.mp inX).symm.trans (mem_marked.mp inO)
  exact absurd same (by decide)

/-- The counter counts the marks, and X, who begins, has as many as O or one more. -/
structure Counted (t : TicTacToe) : Prop where
  turns : t.turnCount = (marked t.board .x).card + (marked t.board .o).card
  balance : (marked t.board .x).card =
    (marked t.board .o).card + if t.currentPlayer = .x then 0 else 1

theorem counted_tttNew : Counted tttNew where
  turns := by decide
  balance := by decide

theorem tttMakeMove_preserves_counted {t : TicTacToe} (counted : Counted t) (move : Int) :
    Counted (tttMakeMove t move).2 := by
  by_cases made : (tttMakeMove t move).1 = true
  · have free := (tttMakeMove_made_iff.mp made).2
    have own := card_marked_mark t.currentPlayer free
    have others := congrArg Finset.card (marked_mark_other t.currentPlayer free)
    obtain ⟨turns, balance⟩ := counted
    rw [tttMakeMove_of_made made]
    cases player : t.currentPlayer
    all_goals
      simp only [player, Player.other] at own others balance
      constructor
      · simp only [tttSwitchPlayer]
        omega
      · simp only [tttSwitchPlayer, reduceCtorEq, if_true, if_false] at balance ⊢
        omega
  · rw [tttMakeMove_of_not_made made]
    exact counted

/-- A board on which X is to move has a free cell: nine marks are not twice as many. -/
theorem exists_free_of_counted {t : TicTacToe} (counted : Counted t)
    (turn : t.currentPlayer = .x) : ∃ row col, t.board row col = none := by
  by_contra full
  simp only [not_exists] at full
  have whole : marked t.board .x ∪ marked t.board .o = Finset.univ := by
    ext cell
    have filled := full cell.1 cell.2
    rw [Finset.mem_union, mem_marked, mem_marked]
    cases mark : t.board cell.1 cell.2 with
    | none => exact absurd mark filled
    | some player => cases player <;> simp
  have nine := congrArg Finset.card whole
  rw [Finset.card_union_of_disjoint (disjoint_marked t.board), Finset.card_univ] at nine
  have size : Fintype.card (Fin 3 × Fin 3) = 9 := by decide
  have balance := counted.balance
  rw [if_pos turn] at balance
  omega

end Cmput313.Ttt
