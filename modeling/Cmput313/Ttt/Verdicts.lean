import Cmput313.Ttt.Histories

/-!
# The verdicts on a board

`ttt_hasWinner` and `ttt_isDraw` look for a line of the player to move, and
`ttt_makeMove` has switched the player already.  Three in a row of the player who has
just moved is what they do not see.
-/

set_option autoImplicit false

namespace Cmput313.Ttt

def ThreeInRow (board : Board) (player : Player) : Prop :=
  (∃ row, ∀ col, board row col = some player) ∨
    (∃ col, ∀ row, board row col = some player) ∨
    (∀ i, board i i = some player) ∨ ∀ i : Fin 3, board i.rev i = some player

theorem tttCheckWin_iff {t : TicTacToe} {player : Player} :
    tttCheckWin t player = true ↔ ThreeInRow t.board player := by
  have lines : (∃ i, (∀ ii, t.board i ii = some player) ∨ ∀ ii, t.board ii i = some player) ↔
      (∃ row, ∀ col, t.board row col = some player) ∨
        ∃ col, ∀ row, t.board row col = some player := exists_or
  simp only [tttCheckWin, ThreeInRow, Bool.or_eq_true, List.any_eq_true, List.all_eq_true,
    List.mem_finRange, true_and, true_implies, decide_eq_true_eq, lines, or_assoc]

instance (board : Board) (player : Player) : Decidable (ThreeInRow board player) :=
  inferInstanceAs (Decidable (_ ∨ _ ∨ _ ∨ _))

theorem ThreeInRow.mono {board after : Board} {player : Player}
    (kept : ∀ row col, board row col = some player → after row col = some player)
    (line : ThreeInRow board player) : ThreeInRow after player := by
  rcases line with ⟨row, all⟩ | ⟨col, all⟩ | all | all
  · exact Or.inl ⟨row, fun col => kept row col (all col)⟩
  · exact Or.inr (Or.inl ⟨col, fun row => kept row col (all row)⟩)
  · exact Or.inr (Or.inr (Or.inl fun i => kept i i (all i)))
  · exact Or.inr (Or.inr (Or.inr fun i => kept i.rev i (all i)))

theorem ThreeInRow.plays {t : TicTacToe} {player : Player} (line : ThreeInRow t.board player)
    (moves : List Int) : ThreeInRow (plays t moves).board player :=
  plays_preserves (fun t => ThreeInRow t.board player)
    (fun _ move line => line.mono fun _ _ mark => tttMakeMove_board_eq_some mark move)
    moves line

theorem ThreeInRow.before {t : TicTacToe} {move : Int}
    {player : Player} (line : ThreeInRow (tttMakeMove t move).2.board player)
    (waits : player = (tttMakeMove t move).2.currentPlayer) : ThreeInRow t.board player := by
  by_cases made : (tttMakeMove t move).1 = true
  · rw [tttMakeMove_of_made made] at line waits
    have notMover : t.currentPlayer ≠ player := by
      rw [waits]
      exact (tttSwitchPlayer_currentPlayer _).symm
    refine line.mono fun row col mark => ?_
    change (if row = (cellOf move).1 ∧ col = (cellOf move).2 then some t.currentPlayer
      else t.board row col) = some player at mark
    split at mark
    · exact absurd (Option.some.inj mark) notMover
    · exact mark
  · rwa [tttMakeMove_of_not_made made] at line

def Full (board : Board) : Prop := ∀ row col, board row col ≠ none

theorem full_iff {board : Board} : Full board ↔ (occupied board).card = 9 := by
  have nine : Fintype.card (Fin 3 × Fin 3) = 9 := by decide
  rw [← nine, Finset.card_eq_iff_eq_univ, Finset.eq_univ_iff_forall]
  simp [Full, occupied]

theorem Counted.full_iff {t : TicTacToe} (counted : Counted t) :
    t.turnCount = 9 ↔ Full t.board := by
  rw [Ttt.full_iff, card_occupied, counted.turns]
  omega

/-- The verdicts are about the board, whoever is to move. -/
structure Verdicts (t : TicTacToe) : Prop where
  winner : tttHasWinner t = true ↔ ∃ player, ThreeInRow t.board player
  draw : tttIsDraw t = true ↔ Full t.board ∧ ¬ ∃ player, ThreeInRow t.board player

/-- A line of the player who waits is seen only together with one of the player to
move. -/
def SeesLine (t : TicTacToe) : Prop :=
  ThreeInRow t.board t.currentPlayer.other → ThreeInRow t.board t.currentPlayer

instance (t : TicTacToe) : Decidable (SeesLine t) := inferInstanceAs (Decidable (_ → _))

theorem exists_line_iff (t : TicTacToe) : (∃ player, ThreeInRow t.board player) ↔
    ThreeInRow t.board t.currentPlayer ∨ ThreeInRow t.board t.currentPlayer.other := by
  constructor
  · rintro ⟨player, line⟩
    cases player <;> cases turn : t.currentPlayer
    · exact Or.inl line
    · exact Or.inr line
    · exact Or.inr line
    · exact Or.inl line
  · rintro (line | line)
    · exact ⟨_, line⟩
    · exact ⟨_, line⟩

theorem verdicts_iff_seesLine {t : TicTacToe} (counted : Counted t) :
    Verdicts t ↔ SeesLine t := by
  have winner : tttHasWinner t = true ↔ ThreeInRow t.board t.currentPlayer := tttCheckWin_iff
  constructor
  · intro verdicts line
    exact winner.mp (verdicts.winner.mpr ⟨_, line⟩)
  · intro sees
    have lines : (∃ player, ThreeInRow t.board player) ↔
        ThreeInRow t.board t.currentPlayer :=
      (exists_line_iff t).trans (or_iff_left_of_imp sees)
    have undecided : (!tttHasWinner t) = true ↔ ¬ ∃ player, ThreeInRow t.board player := by
      rw [lines, ← winner, Bool.not_eq_true', Bool.not_eq_true]
    refine ⟨winner.trans lines.symm, ?_⟩
    rw [tttIsDraw, Bool.and_eq_true, decide_eq_true_iff, counted.full_iff, undecided]

/-- While the verdicts are right, nobody has a line: the move that completes the first
one hands the turn to the other player. -/
theorem no_line_of_verdicts (moves : List Int)
    (right : ∀ earlier, earlier <+: moves → Verdicts (plays tttNew earlier)) :
    ∀ player, ¬ ThreeInRow (plays tttNew moves).board player := by
  induction moves using List.reverseRecOn with
  | nil =>
      intro player
      cases player <;> decide
  | append_singleton moves move inductionHypothesis =>
      have before := inductionHypothesis fun earlier front =>
        right earlier (front.trans (List.prefix_append moves [move]))
      have now := right _ List.prefix_rfl
      have sees := (verdicts_iff_seesLine (counted_plays _)).mp now
      rw [plays_append] at sees ⊢
      have waits : ¬ ThreeInRow (plays (plays tttNew moves) [move]).board
          (plays (plays tttNew moves) [move]).currentPlayer :=
        fun line => before _ (line.before rfl)
      intro player line
      have lines := (exists_line_iff _).mp ⟨player, line⟩
      exact waits (lines.elim id sees)

/-- After any moves the verdicts are right just where a line of the player who has moved
comes with one of the player to move; and all along a sequence of moves just where
nobody completes a line. -/
theorem plays_verdicts_iff (moves : List Int) :
    (Verdicts (plays tttNew moves) ↔ SeesLine (plays tttNew moves)) ∧
      ((∀ earlier, earlier <+: moves → Verdicts (plays tttNew earlier)) ↔
        ∀ player, ¬ ThreeInRow (plays tttNew moves).board player) := by
  refine ⟨verdicts_iff_seesLine (counted_plays moves), no_line_of_verdicts moves, ?_⟩
  rintro none earlier ⟨later, rfl⟩
  refine (verdicts_iff_seesLine (counted_plays earlier)).mpr fun line => ?_
  rw [plays_append] at none
  exact absurd (line.plays later) (none _)

/-- X completes the first row, and `ttt_hasWinner` is false. -/
theorem firstRow_not_verdicts : ¬ Verdicts (plays tttNew [1, 4, 2, 5, 3]) := by
  rw [verdicts_iff_seesLine (counted_plays _)]
  decide

end Cmput313.Ttt
