import Cmput313.Ttt.Marks
import Mathlib.Algebra.Ring.Int.Parity
import Mathlib.Tactic.IntervalCases

/-!
# Any sequence of moves

What holds of a structure after any calls of `ttt_makeMove` with any numbers, refused
ones and those behind a win included.
-/

set_option autoImplicit false

namespace Cmput313.Ttt

/-- The structure after calls of `ttt_makeMove`, whatever these return. -/
def plays (t : TicTacToe) (moves : List Int) : TicTacToe :=
  moves.foldl (fun t move => (tttMakeMove t move).2) t

theorem plays_append (t : TicTacToe) (first second : List Int) :
    plays t (first ++ second) = plays (plays t first) second :=
  List.foldl_append ..

theorem plays_preserves (invariant : TicTacToe → Prop)
    (preserved : ∀ t move, invariant t → invariant (tttMakeMove t move).2)
    (moves : List Int) : ∀ {t : TicTacToe}, invariant t → invariant (plays t moves) := by
  induction moves with
  | nil => exact fun holds => holds
  | cons move rest inductionHypothesis =>
      intro t holds
      exact inductionHypothesis (preserved t move holds)

theorem counted_plays (moves : List Int) : Counted (plays tttNew moves) :=
  plays_preserves Counted (fun _ move counted => tttMakeMove_preserves_counted counted move)
    moves counted_tttNew

/-! ## Cells -/

def numberOf (row col : Fin 3) : Int := row * 3 + col + 1

theorem cellOf_numberOf (row col : Fin 3) : cellOf (numberOf row col) = (row, col) := by
  revert row col
  decide

theorem numberOf_cellOf {move : Int} (inRange : 1 ≤ move ∧ move ≤ 9) :
    numberOf (cellOf move).1 (cellOf move).2 = move := by
  obtain ⟨low, high⟩ := inRange
  interval_cases move <;> rfl

def occupied (board : Board) : Finset (Fin 3 × Fin 3) :=
  Finset.univ.filter fun cell => board cell.1 cell.2 ≠ none

theorem card_occupied (board : Board) :
    (occupied board).card = (marked board .x).card + (marked board .o).card := by
  rw [← Finset.card_union_of_disjoint (disjoint_marked board)]
  congr 1
  ext cell
  rw [Finset.mem_union, mem_marked, mem_marked]
  cases mark : board cell.1 cell.2 with
  | none => simp [occupied, mark]
  | some player => cases player <;> simp [occupied, mark]

theorem card_occupied_le (board : Board) : (occupied board).card ≤ 9 :=
  (Finset.card_le_univ _).trans (by decide)

theorem tttMakeMove_board_eq_some {t : TicTacToe} {row col : Fin 3} {player : Player}
    (mark : t.board row col = some player) (move : Int) :
    (tttMakeMove t move).2.board row col = some player := by
  by_cases made : (tttMakeMove t move).1 = true
  · have free := (tttMakeMove_made_iff.mp made).2
    have elsewhere : ¬ (row = (cellOf move).1 ∧ col = (cellOf move).2) := by
      rintro ⟨rfl, rfl⟩
      rw [free] at mark
      cases mark
    rw [tttMakeMove_of_made made]
    exact (if_neg elsewhere).trans mark
  · rw [tttMakeMove_of_not_made made]
    exact mark

/-! ## The state -/

/-- The cells, the counter and the player to move agree; a call is refused for a number
outside or a marked cell, and then changes nothing; and no mark changes later. -/
structure Consistent (t : TicTacToe) : Prop where
  turnCount : t.turnCount = (occupied t.board).card
  bound : t.turnCount ≤ 9
  player : t.currentPlayer = .x ↔ Even t.turnCount
  balance : ((marked t.board .x).card : Int) - (marked t.board .o).card = t.turnCount % 2
  refused : ∀ move, (tttMakeMove t move).1 = false ↔
    (move < 1 ∨ 9 < move) ∨ ∃ row col, move = numberOf row col ∧ t.board row col ≠ none
  unchanged : ∀ move, (tttMakeMove t move).1 = false → (tttMakeMove t move).2 = t
  kept : ∀ row col player, t.board row col = some player →
    ∀ later, (plays t later).board row col = some player

theorem refused_iff (t : TicTacToe) (move : Int) : (tttMakeMove t move).1 = false ↔
    (move < 1 ∨ 9 < move) ∨ ∃ row col, move = numberOf row col ∧ t.board row col ≠ none := by
  rw [← Bool.not_eq_true, tttMakeMove_made_iff]
  by_cases inRange : 1 ≤ move ∧ move ≤ 9
  · have inside : ¬ (move < 1 ∨ 9 < move) := by omega
    rw [or_iff_right inside]
    constructor
    · intro refused
      refine ⟨(cellOf move).1, (cellOf move).2, (numberOf_cellOf inRange).symm, ?_⟩
      exact fun free => refused ⟨inRange, free⟩
    · rintro ⟨row, col, rfl, occupied⟩ ⟨-, free⟩
      rw [cellOf_numberOf] at free
      exact occupied free
  · have outside : move < 1 ∨ 9 < move := by omega
    exact iff_of_true (fun legal => inRange legal.1) (Or.inl outside)

theorem Counted.consistent {t : TicTacToe} (counted : Counted t) : Consistent t where
  turnCount := by rw [counted.turns, card_occupied, Int.natCast_add]
  bound := by
    have few := card_occupied_le t.board
    rw [card_occupied] at few
    rw [counted.turns]
    omega
  player := by
    rw [counted.turns, counted.balance, Int.even_iff]
    by_cases turn : t.currentPlayer = .x
    · rw [if_pos turn]
      exact iff_of_true turn (by omega)
    · rw [if_neg turn]
      exact iff_of_false turn (by omega)
  balance := by
    rw [counted.turns, counted.balance]
    split <;> omega
  refused := refused_iff t
  unchanged := fun move refused => tttMakeMove_of_not_made (by rw [refused]; decide)
  kept := fun row col player mark later =>
    plays_preserves (fun t => t.board row col = some player)
      (fun _ move kept => tttMakeMove_board_eq_some kept move) later mark

/-- After any moves from the start. -/
theorem plays_consistent (moves : List Int) : Consistent (plays tttNew moves) :=
  (counted_plays moves).consistent

end Cmput313.Ttt
