import Cmput313.Ttt.ClientStream
import Cmput313.Ttt.Verdicts

/-!
# What the players of part 2 are told

`client2_runGame` announces a win for a line of X, whichever player the client is.  The
server's WIN and LOSE are right, and they come behind the move at which both clients
have left.
-/

set_option autoImplicit false

namespace Cmput313.Ttt.Part2

open Cmput313.CText Cmput313.Framing

/-! ## The server over its results of `recv` -/

/-- A message of the player to move; nothing stands behind the number of a MARK. -/
structure ServerRecv where
  bytes : Text
  short : bytes.length ≤ 255
  plain : (server2Move bytes).isSome = true → Plain (cText bytes)

/-- `server2_runGame` with what its `recv` returns, the ACKs among it.  The `inbox` of a
seat is all that was sent to it. -/
def server2RunGame (turnCount : Int) (received : List ServerRecv) : Game :=
  received.foldl (fun game message => game.serverReceives message.bytes []) (start turnCount)

def sentWin : Sent where
  command := .win
  text := winWord
  tells := rfl
  plain := by intro n; exact nofun
  noNul := by decide
  short := by decide

def sentLose : Sent where
  command := .lose
  text := loseWord
  tells := rfl
  plain := by intro n; exact nofun
  noNul := by decide
  short := by decide

def sentDraw : Sent where
  command := .draw
  text := drawWord
  tells := rfl
  plain := by intro n; exact nofun
  noNul := by decide
  short := by decide

def Seat.Sends (seat : Seat) (line : Prop) : Prop :=
  ∃ sent : List Sent, seat.inbox = sent.map Sent.bytes ∧ ∀ one ∈ sent, one.command = .win → line

theorem Seat.Sends.mono {seat : Seat} {line after : Prop} (sends : seat.Sends line)
    (kept : line → after) : seat.Sends after := by
  obtain ⟨sent, inbox, fair⟩ := sends
  exact ⟨sent, inbox, fun one member win => kept (fair one member win)⟩

theorem Seat.Sends.hears {seat : Seat} {line : Prop} (sends : seat.Sends line) (one : Sent)
    (fair : one.command = .win → line) :
    ({ seat with inbox := seat.inbox ++ [one.bytes] } : Seat).Sends line := by
  obtain ⟨sent, inbox, fairBefore⟩ := sends
  refine ⟨sent ++ [one], ?_, ?_⟩
  · rw [inbox, List.map_append]
    rfl
  · intro other member
    rcases List.mem_append.mp member with before | last
    · exact fairBefore other before
    · rw [List.mem_singleton.mp last]
      exact fair

/-- The lines that stand behind the WINs to the players. -/
def Game.Sends (game : Game) (line : Player → Prop) : Prop :=
  ∀ player, (game.seat player).Sends (line player)

section Sends

variable {game : Game} {line : Player → Prop}

theorem Game.Sends.onSeat (sends : game.Sends line) {player : Player} {change : Seat → Seat}
    (changed : (change (game.seat player)).Sends (line player)) :
    (game.onSeat player change).Sends line :=
  forall_onSeat (fun player seat => seat.Sends (line player)) sends changed

theorem Game.Sends.send (sends : game.Sends line) {player : Player} (one : Sent)
    (noWin : one.command ≠ .win) : (game.server2SendGameState player one.text).Sends line :=
  sends.onSeat ((sends player).hears one fun win => absurd win noWin)

theorem Game.Sends.sendWin (sends : game.Sends line) {player : Player} (wins : line player) :
    (game.server2SendGameState player winWord).Sends line :=
  sends.onSeat ((sends player).hears sentWin fun _ => wins)

theorem Game.Sends.announce (sends : game.Sends line) : game.announce.Sends line :=
  (sends.send sentTurn (by decide)).send sentWait (by decide)

theorem Game.Sends.verdict (sends : game.Sends (ThreeInRow game.room.board)) :
    game.verdict.Sends (ThreeInRow game.room.board) := by
  have lose : sentLose.command ≠ .win := by decide
  have draw : sentDraw.command ≠ .win := by decide
  rw [Game.verdict]
  split
  · rename_i win
    exact (sends.sendWin (tttCheckWin_iff.mp win)).send sentLose lose
  · split
    · rename_i win
      exact (sends.send sentLose lose).sendWin (tttCheckWin_iff.mp win)
    · split
      · exact (sends.send sentDraw draw).send sentDraw draw
      · exact sends.announce

theorem Game.Sends.passes (sends : game.Sends line) (one : Sent) (move : Int)
    (noWin : one.command ≠ .win) : (game.passes move one.text).Sends line := by
  have current : ((game.onSeat game.room.currentPlayer fun seat =>
      { seat with passed := seat.passed ++ [move] }).Sends line) :=
    sends.onSeat (sends game.room.currentPlayer)
  exact (current.send one noWin).send one noWin

end Sends

/-! ## What holds of the server -/

/-- A WIN stands for a line; without a line the game goes on; and not both players have
one. -/
structure Game.Honest (game : Game) : Prop where
  sends : game.Sends (ThreeInRow game.room.board)
  goesOn : game.phase ≠ .ended → ∀ player, ¬ ThreeInRow game.room.board player
  one : ¬ (ThreeInRow game.room.board .x ∧ ThreeInRow game.room.board .o)

theorem no_line_of_undecided {t : TicTacToe} (undecided : decided t = false) (player : Player) :
    ¬ ThreeInRow t.board player := by
  rw [decided, Bool.or_eq_false_iff, Bool.or_eq_false_iff] at undecided
  intro line
  have wins := tttCheckWin_iff.mpr line
  cases player with
  | x => rw [undecided.1.1] at wins; cases wins
  | o => rw [undecided.1.2] at wins; cases wins

theorem no_line_blankBoard (player : Player) : ¬ ThreeInRow blankBoard player := by
  cases player <;> decide

theorem honest_start (turnCount : Int) : (start turnCount).Honest where
  sends := Game.Sends.announce fun _ => ⟨[], rfl, nofun⟩
  goesOn := fun _ => no_line_blankBoard
  one := fun both => no_line_blankBoard _ both.1

theorem ServerRecv.exists_sent (message : ServerRecv)
    (move : (server2Move message.bytes).isSome = true) :
    ∃ one : Sent, one.text = cText message.bytes ∧ one.command ≠ .win := by
  have plain := message.plain move
  obtain ⟨n, -, scanned, -⟩ := plain_reads plain
  have short : (cText message.bytes).length ≤ 255 :=
    (List.takeWhile_prefix _).length_le.trans message.short
  exact ⟨{
    command := .mark n
    text := cText message.bytes
    tells := (understood_mark_plain_iff plain List.prefix_rfl).mp (understood_mark_iff.mpr scanned)
    plain := fun _ _ => plain
    noNul := cText_cText _
    short := short }, rfl, nofun⟩

/-- Without a line before it, a move gives one player at most a line. -/
theorem one_line_of_move {t : TicTacToe} (before : ∀ player, ¬ ThreeInRow t.board player)
    (move : Int) : ¬ (ThreeInRow (tttMakeMove t move).2.board .x ∧
      ThreeInRow (tttMakeMove t move).2.board .o) := by
  rintro ⟨lineX, lineO⟩
  cases turn : (tttMakeMove t move).2.currentPlayer with
  | x => exact before .x (lineX.before turn.symm)
  | o => exact before .o (lineO.before turn.symm)

theorem Game.Honest.handles {game : Game} (honest : game.Honest) (open_ : game.phase ≠ .ended)
    (message : ServerRecv) : (game.handles message.bytes).Honest := by
  have noLine := honest.goesOn open_
  rw [Game.handles]
  cases moves : server2Move message.bytes with
  | none => exact ⟨honest.sends.announce, fun _ => noLine, honest.one⟩
  | some move =>
      obtain ⟨one, text, mark⟩ := message.exists_sent (by rw [moves]; rfl)
      have noWin : game.Sends fun _ => False := fun player =>
        (honest.sends player).mono (noLine player)
      have passes := noWin.passes one move mark
      rw [text] at passes
      have sends : (game.passes move (cText message.bytes)).Sends
          (ThreeInRow (game.passes move (cText message.bytes)).room.board) :=
        fun player => (passes player).mono False.elim
      refine ⟨?_, ?_, ?_⟩
      · rw [verdict_room]
        exact sends.verdict
      · intro goesOn player
        rw [verdict_room]
        have undecided : ¬ decided (game.passes move (cText message.bytes)).room = true :=
          fun isDecided => goesOn (verdict_ended_iff.mpr isDecided)
        exact no_line_of_undecided (Bool.not_eq_true _ ▸ undecided) player
      · rw [verdict_room, passes_room]
        exact one_line_of_move noLine move

theorem Game.Honest.serverReceives {game : Game} (honest : game.Honest) (message : ServerRecv) :
    (game.serverReceives message.bytes []).Honest := by
  have taken : (game.takes []).Honest :=
    ⟨honest.sends.onSeat (honest.sends game.room.currentPlayer), honest.goesOn, honest.one⟩
  rw [Game.serverReceives]
  cases phase : game.phase with
  | waitsAck => exact ⟨taken.sends, fun _ => honest.goesOn (by rw [phase]; decide), taken.one⟩
  | waitsMove => exact taken.handles (by change game.phase ≠ _; rw [phase]; decide) message
  | ended => exact taken

theorem honest_server2RunGame (turnCount : Int) (received : List ServerRecv) :
    (server2RunGame turnCount received).Honest := by
  rw [server2RunGame]
  induction received using List.reverseRecOn with
  | nil => exact honest_start turnCount
  | append_singleton received message inductionHypothesis =>
      rw [List.foldl_append]
      exact inductionHypothesis.serverReceives message

/-! ## How a client ends -/

theorem ownAnnouncement_won_iff {t : TicTacToe} :
    ownAnnouncement t = some .won ↔ ThreeInRow t.board .x := by
  rw [← tttCheckWin_iff, ownAnnouncement]
  split
  · rename_i win
    exact iff_of_true rfl win
  · rename_i noWin
    refine iff_of_false ?_ noWin
    split_ifs <;> simp

theorem wordAnnouncement_won {response : Text} (won : wordAnnouncement response = some .won) :
    understood response = some .win := by
  rw [wordAnnouncement] at won
  split_ifs at won with win lose draw
  · rw [win]
    rfl
  · cases won
  · cases won

/-- A client announces what its own board says; or a message ends it before its board
does, and then a win is announced for a WIN. -/
theorem client2RunGame_announced (results : List Recv) : ∀ {t : TicTacToe}
    (stdin : List (Option Line)), decided t = false →
    (client2RunGame t stdin results).announced =
        ownAnnouncement (client2RunGame t stdin results).t ∨
      (decided (client2RunGame t stdin results).t = false ∧
        ((client2RunGame t stdin results).announced = some .won →
          .win ∈ heardOf results)) := by
  induction results with
  | nil => exact fun _ undecided => Or.inl (ownAnnouncement_eq_none_iff.mpr undecided).symm
  | cons result later inductionHypothesis =>
      intro t stdin undecided
      rw [heardOf_cons]
      cases reads : understood (cText result.buffer) with
      | none =>
          rw [client2RunGame_silent stdin later undecided reads]
          exact inductionHypothesis stdin undecided
      | some command =>
          rw [Option.toList_some, List.singleton_append]
          by_cases isResult : command.IsResult
          · rw [client2RunGame_result stdin later isResult reads]
            refine Or.inr ⟨undecided, fun won => ?_⟩
            rw [wordAnnouncement_won won] at reads
            rw [← Option.some.inj reads]
            exact List.mem_cons_self ..
          · rw [client2RunGame_obeys stdin later isResult reads]
            cases own : ownAnnouncement (obey t stdin command).1 with
            | some announcement => exact Or.inl own.symm
            | none =>
                have goesOn := ownAnnouncement_eq_none_iff.mp own
                rcases inductionHypothesis (obey t stdin command).2 goesOn with
                  ownBoard | ⟨undecidedStill, heardWin⟩
                · exact Or.inl ownBoard
                · exact Or.inr ⟨undecidedStill,
                    fun won => List.mem_cons_of_mem _ (heardWin won)⟩

theorem Sent.win_of_part {sent : Sent} {part : Text} (front : part <+: sent.text)
    (reads : understood part = some .win) : sent.command = .win := by
  have word : part = winWord := (understood_word_iff (by intro n; exact nofun)).mp reads
  have tells := sent.tells
  subst word
  cases command : sent.command with
  | win => rfl
  | mark n =>
      obtain ⟨⟨rest, split⟩, -⟩ := sent.plain n command
      rw [← split] at front
      have first : (87 : UInt8) = 77 := (List.cons_prefix_cons.mp front).1
      exact absurd first (by decide)
  | _ =>
      rw [command] at tells
      rw [show sent.text = _ from tells] at front
      exact absurd front (by decide)

theorem Seat.Sends.line_of_heard {seat : Seat} {line : Prop} (sends : seat.Sends line)
    {results : List Recv} (segments : (results.map Recv.bytes).flatten = seat.inbox.flatten)
    (hears : .win ∈ heardOf results) : line := by
  obtain ⟨sent, inbox, fair⟩ := sends
  rw [inbox, flatten_bytes] at segments
  obtain ⟨message, member, part, front, reads⟩ := exists_of_mem_heard
    (arrives_start (proper_messages sent) (pieces_ne_nil results) segments) hears
  obtain ⟨one, oneMember, rfl⟩ := List.mem_map.mp member
  exact fair one oneMember (one.win_of_part front reads)

/-! ## Both players -/

structure Client where
  stdin : List (Option Line)
  results : List Recv

def Client.played (client : Client) : Played :=
  client2RunGame tttNew client.stdin client.results

/-- In a game at whose end both clients have the board of the server, both players announce
their own results just where nobody has completed a line. -/
theorem announces_own_result_iff (turnCount : Int) (received : List ServerRecv)
    (client : Player → Client)
    (segments : ∀ player, ((client player).results.map Recv.bytes).flatten =
      ((server2RunGame turnCount received).seat player).inbox.flatten)
    (applied : ∀ player, (client player).played.t.board =
      (server2RunGame turnCount received).room.board) :
    (∀ player, (client player).played.announced = some .won ↔
        ThreeInRow (server2RunGame turnCount received).room.board player) ↔
      ∀ player, ¬ ThreeInRow (server2RunGame turnCount received).room.board player := by
  have honest := honest_server2RunGame turnCount received
  have ends := fun player =>
    client2RunGame_announced (client player).results (client player).stdin decided_tttNew
  constructor
  · intro right player line
    have own : ∀ who, (client who).played.announced = some .won ↔
        ThreeInRow (server2RunGame turnCount received).room.board .x := by
      intro who
      rcases ends who with announced | ⟨undecided, -⟩
      · rw [Client.played, announced, ownAnnouncement_won_iff, ← Client.played, applied who]
      · have noLine := no_line_of_undecided undecided player
        rw [← Client.played, applied who] at noLine
        exact absurd line noLine
    have same : ∀ who, ThreeInRow (server2RunGame turnCount received).room.board .x ↔
        ThreeInRow (server2RunGame turnCount received).room.board who :=
      fun who => (own who).symm.trans (right who)
    have lineX := (same player).mpr line
    exact honest.one ⟨lineX, (same .o).mp lineX⟩
  · intro noLine player
    refine iff_of_false (fun won => ?_) (noLine player)
    rcases ends player with announced | ⟨-, heardWin⟩
    · rw [Client.played, announced, ownAnnouncement_won_iff, ← Client.played,
        applied player] at won
      exact noLine .x won
    · exact noLine player
        ((honest.sends player).line_of_heard (segments player) (heardWin won))

/-! ## A game that X wins -/

def markLine (n : Fin 10) : Line where
  chars := [77, 65, 82, 75, 32, 48 + UInt8.ofNat n, 10]
  fits := by simp
  ends := by
    revert n
    decide

theorem plain_markLine : ∀ n : Fin 10, markWord ++ [32] <+: (markLine n).text ∧
    (scanCommand (markLine n).text).isSome = true := by
  decide

def sentMark (n : Fin 10) : Sent where
  command := .mark n
  text := (markLine n).text
  tells := by
    revert n
    decide
  plain := fun _ _ => plain_markLine n
  noNul := cText_line _
  short := (length_text_le _).trans (by decide)

/-- The ACKs that have arrived together, as 15 bytes take them. -/
def acksRecv (count : Nat) : ServerRecv where
  bytes := (List.replicate count ackWord).flatten.take 15
  short := (List.length_take_le ..).trans (by decide)
  plain := by
    intro move
    cases count with
    | zero => cases move
    | succ more => cases move

def markRecv (n : Fin 10) : ServerRecv where
  bytes := (markLine n).text
  short := (length_text_le _).trans (by decide)
  plain := fun _ => (cText_line (markLine n)).symm ▸ plain_markLine n

def firstRowReceived : List ServerRecv :=
  let mark (n : Nat) : ServerRecv := markRecv (Fin.ofNat 10 n)
  [acksRecv 1, mark 1, acksRecv 3, mark 4, acksRecv 4, mark 2, acksRecv 4, mark 5,
    acksRecv 4, mark 3]

def firstRowClient : Player → Client :=
  let typed (n : Nat) : Option Line := some (markLine (Fin.ofNat 10 n))
  let mark (n : Nat) : Sent := sentMark (Fin.ofNat 10 n)
  fun
  | .x =>
      { stdin := [typed 1, typed 2, typed 3]
        results := [sentTurn, mark 1, sentWait, mark 4, sentTurn, mark 2, sentWait, mark 5,
          sentTurn, mark 3, sentWin].map Sent.alone }
  | .o =>
      { stdin := [typed 4, typed 5]
        results := [sentWait, mark 1, sentTurn, mark 4, sentWait, mark 2, sentTurn, mark 5,
          sentWait, mark 3, sentLose].map Sent.alone }

theorem firstRow_segments (player : Player) :
    ((firstRowClient player).results.map Recv.bytes).flatten =
      ((server2RunGame 0 firstRowReceived).seat player).inbox.flatten := by
  cases player <;> rfl

theorem firstRow_applied (player : Player) : (firstRowClient player).played.t.board =
    (server2RunGame 0 firstRowReceived).room.board := by
  cases player <;> decide

theorem firstRow_announces_own_result_iff :
    (∀ player, (firstRowClient player).played.announced = some .won ↔
        ThreeInRow (server2RunGame 0 firstRowReceived).room.board player) ↔
      ∀ player, ¬ ThreeInRow (server2RunGame 0 firstRowReceived).room.board player :=
  announces_own_result_iff 0 firstRowReceived firstRowClient firstRow_segments firstRow_applied

/-- The player in seat O announces the win of X as a win. -/
theorem firstRow_not_announces_own_result :
    (∀ player, ((firstRowClient player).results.map Recv.bytes).flatten =
      ((server2RunGame 0 firstRowReceived).seat player).inbox.flatten) ∧
    (∀ player, (firstRowClient player).played.t.board =
      (server2RunGame 0 firstRowReceived).room.board) ∧
    ¬ ∀ player, (firstRowClient player).played.announced = some .won ↔
      ThreeInRow (server2RunGame 0 firstRowReceived).room.board player := by
  refine ⟨firstRow_segments, firstRow_applied, fun right => ?_⟩
  have line := (right .o).mp (by decide)
  exact absurd line (by decide)

end Cmput313.Ttt.Part2
