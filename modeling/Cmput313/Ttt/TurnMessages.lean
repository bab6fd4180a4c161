import Cmput313.Lib.TurnTaking
import Cmput313.Ttt.Part2

/-!
# The moves between a room and its clients

Each MARK that a client sends is played by the server once, and the boards agree when
no MARK is in flight, as long as a client sends a MARK only when its own board says
that it is to move, in a form that all three parsers read alike, and as long as the
server does not take a MARK for the ACK that it waits for.
-/

set_option autoImplicit false

namespace Cmput313.Ttt.Part2

open Cmput313.CText Cmput313.Machine Cmput313.TurnTaking

/-! ## Tic-tac-toe as a game with turns -/

abbrev Position := Board × Player

def positionOf (t : TicTacToe) : Position := (t.board, t.currentPlayer)

/-- The structure with a position; the count of turns does not matter for a move. -/
def Position.asStruct (position : Position) : TicTacToe :=
  { board := position.1, currentPlayer := position.2, turnCount := 0 }

def Position.play (position : Position) (move : Int) : Position :=
  positionOf (tttMakeMove position.asStruct move).2

def Position.Legal (position : Position) (move : Int) : Prop :=
  (tttMakeMove position.asStruct move).1 = true

theorem legal_iff {position : Position} {move : Int} :
    position.Legal move ↔
      (1 ≤ move ∧ move ≤ 9) ∧ position.1 (cellOf move).1 (cellOf move).2 = none :=
  tttMakeMove_made_iff

theorem legal_positionOf {t : TicTacToe} {move : Int} :
    (positionOf t).Legal move ↔ (tttMakeMove t move).1 = true := by
  rw [legal_iff, tttMakeMove_made_iff]
  rfl

theorem positionOf_makeMove (t : TicTacToe) (move : Int) :
    positionOf (tttMakeMove t move).2 = (positionOf t).play move := by
  by_cases made : (tttMakeMove t move).1 = true
  · have legal : (tttMakeMove (positionOf t).asStruct move).1 = true :=
      legal_positionOf.mpr made
    rw [Position.play, tttMakeMove_of_made made, tttMakeMove_of_made legal]
    rfl
  · have illegal : (tttMakeMove (positionOf t).asStruct move).1 ≠ true :=
      fun legal => made (legal_positionOf.mp legal)
    rw [Position.play, tttMakeMove_of_not_made made, tttMakeMove_of_not_made illegal]
    rfl

theorem play_marked {position : Position} {row col : Fin 3}
    (marked : position.1 row col ≠ none) (move : Int) :
    (position.play move).1 row col ≠ none :=
  tttMakeMove_board_ne_none (t := position.asStruct) marked move

theorem play_of_illegal {position : Position} {move : Int} (illegal : ¬ position.Legal move) :
    position.play move = position := by
  rw [Position.play, tttMakeMove_of_not_made illegal]
  rfl

theorem illegal_of_marked {position : Position} {move : Int}
    (marked : position.1 (cellOf move).1 (cellOf move).2 ≠ none) : ¬ position.Legal move :=
  fun legal => marked (legal_iff.mp legal).2

theorem illegal_after {position : Position} {move : Int} (other : Int)
    (illegal : ¬ position.Legal move) : ¬ (position.play other).Legal move := by
  by_cases inRange : 1 ≤ move ∧ move ≤ 9
  · have marked : position.1 (cellOf move).1 (cellOf move).2 ≠ none :=
      fun free => illegal (legal_iff.mpr ⟨inRange, free⟩)
    exact illegal_of_marked (play_marked marked other)
  · exact fun legal => inRange (legal_iff.mp legal).1

theorem play_of_legal {position : Position} {move : Int} (legal : position.Legal move) :
    position.play move = positionOf (tttSwitchPlayer { position.asStruct with
      board := position.1.mark (cellOf move).1 (cellOf move).2 position.2
      turnCount := 1 }) := by
  rw [Position.play, tttMakeMove_of_made legal]
  rfl

theorem illegal_twice {position : Position} {move : Int} :
    ¬ (position.play move).Legal move := by
  by_cases legal : position.Legal move
  · have cell : (position.play move).1 (cellOf move).1 (cellOf move).2 = some position.2 := by
      rw [play_of_legal legal]
      exact if_pos ⟨rfl, rfl⟩
    exact illegal_of_marked (cell ▸ Option.some_ne_none _)
  · rw [play_of_illegal legal]
    exact legal

theorem turn_of_legal {position : Position} {move : Int} (legal : position.Legal move) :
    (position.play move).2 ≠ position.2 := by
  rw [play_of_legal legal]
  exact tttSwitchPlayer_currentPlayer _

def ticTacToe : Turns Position Player Int where
  play := Position.play
  Legal := Position.Legal
  turn := Prod.snd
  play_illegal := play_of_illegal
  illegal_play := illegal_after
  illegal_played := illegal_twice
  turn_play := turn_of_legal

/-! ## Lines that are read alike -/

def Plain (text : Text) : Prop := markWord ++ [32] <+: text ∧ (scanCommand text).isSome = true

theorem scanCommand_mark (rest : Text) :
    scanCommand (markWord ++ 32 :: rest) = (scanInt (32 :: rest)).bind fun found =>
      if skipSpaces found.2 = [] then some (markWord, found.1) else none := rfl

theorem scanCommand_mark_iff {rest : Text} {n : Int} :
    scanCommand (markWord ++ 32 :: rest) = some (markWord, n) ↔
      ∃ tail, scanInt (32 :: rest) = some (n, tail) ∧ skipSpaces tail = [] := by
  rw [scanCommand_mark, Option.bind_eq_some_iff]
  constructor
  · rintro ⟨⟨number, tail⟩, scanned, reads⟩
    simp only at reads
    split at reads
    · rename_i blank
      have same : number = n := (Prod.mk.inj (Option.some.inj reads)).2
      exact ⟨tail, same ▸ scanned, blank⟩
    · cases reads
  · rintro ⟨tail, scanned, blank⟩
    exact ⟨(n, tail), scanned, if_pos blank⟩

theorem Plain.scanned {text : Text} (plain : Plain text) :
    ∃ rest n tail, text = markWord ++ 32 :: rest ∧ scanInt (32 :: rest) = some (n, tail) ∧
      skipSpaces tail = [] := by
  obtain ⟨⟨rest, split⟩, reads⟩ := plain
  have form : text = markWord ++ 32 :: rest := split.symm
  rw [form, scanCommand_mark, Option.isSome_iff_exists] at reads
  obtain ⟨result, reads⟩ := reads
  obtain ⟨⟨n, tail⟩, scanned, reads⟩ := Option.bind_eq_some_iff.mp reads
  by_cases blank : skipSpaces tail = []
  · exact ⟨rest, n, tail, form, scanned, blank⟩
  · rw [if_neg blank] at reads
    cases reads

/-- The client that sends a plain line, the server and the client that is told of it
find the same number. -/
theorem plain_reads {text : Text} (plain : Plain text) :
    ∃ n, scanMark text = some n ∧ scanCommand text = some (markWord, n) ∧
      atoi (text.drop 5) = n := by
  obtain ⟨rest, n, tail, rfl, scanned, blank⟩ := plain.scanned
  refine ⟨n, ?_, scanCommand_mark_iff.mpr ⟨tail, scanned, blank⟩, ?_⟩
  · have front : markWord <+: markWord ++ 32 :: rest := List.prefix_append _ _
    have behindWord : (markWord ++ 32 :: rest).drop 4 = 32 :: rest := rfl
    rw [scanMark, if_pos front, behindWord, scanned]
    rfl
  · have skipped : skipSpaces (32 :: rest) = skipSpaces rest := rfl
    have behindBlank : (markWord ++ 32 :: rest).drop 5 = rest := rfl
    rw [behindBlank, ← atoi_skipSpaces, ← skipped, atoi_skipSpaces]
    exact atoi_of_scanInt scanned

structure Command (text : Text) : Prop where
  plain : Plain text
  asSent : cText text = text
  short : text.length ≤ 15

theorem command_reads {text : Text} (command : Command text) :
    ∃ n, scanMark text = some n ∧ server2Move text = some n ∧
      toldMove (gameState (cText text)) = some n := by
  obtain ⟨n, mark, scanned, value⟩ := plain_reads command.plain
  have passed : server2Move text = some n := by
    rw [server2Move, command.asSent, if_pos command.plain.1, value]
  have arrives : cText (gameState (cText text)) = text := by
    rw [command.asSent]
    exact cText_gameState command.asSent (by have := command.short; omega)
  have told : toldMove (gameState (cText text)) = some n := by
    rw [toldMove, arrives, scanned]
    exact if_pos rfl
  exact ⟨n, mark, passed, told⟩

theorem command_of_line {line : Line} (plain : Plain line.text) : Command line.text where
  plain := plain
  asSent := cText_line line
  short := length_text_le line

theorem not_command_ack : ¬ Command ackWord :=
  fun command => absurd command.plain.1 (by decide)

/-! ## One seat -/

def marks (outbox : List Text) : List Int := outbox.filterMap scanMark

def told (inbox : List Text) : List Int := inbox.filterMap toldMove

theorem told_append_of_none {inbox : List Text} {message : Text}
    (silent : toldMove message = none) : told (inbox ++ [message]) = told inbox := by
  simp [told, silent]

theorem told_append_of_some {inbox : List Text} {message : Text} {n : Int}
    (tells : toldMove message = some n) : told (inbox ++ [message]) = told inbox ++ [n] := by
  simp [told, tells]

theorem marks_append_ack (outbox : List Text) : marks (outbox ++ [ackWord]) = marks outbox := by
  have ack : scanMark ackWord = none := rfl
  simp [marks, ack]

structure Seat.Kept (seat : Seat) (room : TicTacToe) (player : Player) : Prop where
  inSync : ticTacToe.InSync player (positionOf room) (positionOf seat.client)
    (told seat.inbox) (marks seat.outbox)
  passed : seat.sent = seat.passed ++ marks seat.outbox
  known : ∀ message ∈ seat.outbox, message = ackWord ∨ Command message

section Seats

variable {seat : Seat} {room : TicTacToe} {player : Player} {message : Text}
  {rest : List Text} {n : Int}

theorem Seat.Kept.inPhase (kept : seat.Kept room player) (phase : ClientPhase) :
    { seat with phase := phase }.Kept room player :=
  ⟨kept.inSync, kept.passed, kept.known⟩

theorem Seat.Kept.hears (kept : seat.Kept room player) (silent : toldMove message = none) :
    { seat with inbox := seat.inbox ++ [message] }.Kept room player := by
  refine ⟨?_, kept.passed, kept.known⟩
  change ticTacToe.InSync player _ _ (told (seat.inbox ++ [message])) _
  rw [told_append_of_none silent]
  exact kept.inSync

theorem Seat.Kept.taken (kept : seat.Kept room player) (outbox : seat.outbox = message :: rest)
    (noMove : scanMark message = none) : { seat with outbox := rest }.Kept room player := by
  have same : marks seat.outbox = marks rest := by
    rw [outbox, marks, List.filterMap_cons_none noMove]
    rfl
  refine ⟨?_, ?_, ?_⟩
  · exact same ▸ kept.inSync
  · exact same ▸ kept.passed
  · intro other member
    apply kept.known
    rw [outbox]
    exact List.mem_cons_of_mem _ member

theorem Seat.Kept.answers {t : TicTacToe} {phase : ClientPhase} (kept : seat.Kept room player)
    (inSync : ticTacToe.InSync player (positionOf room) (positionOf t) (told rest)
      (marks seat.outbox)) :
    { seat with
      client := t
      phase := phase
      inbox := rest
      outbox := seat.outbox ++ [ackWord] }.Kept room player := by
  have same := marks_append_ack seat.outbox
  refine ⟨?_, ?_, ?_⟩
  · exact same.symm ▸ inSync
  · exact same.symm ▸ kept.passed
  · intro other member
    rcases List.mem_append.mp member with before | last
    · exact kept.known other before
    · exact Or.inl (List.mem_singleton.mp last)

theorem Seat.Kept.receives (kept : seat.Kept room player)
    (inbox : seat.inbox = message :: rest) : (seat.receives message rest).Kept room player := by
  have inSync := kept.inSync
  rw [inbox] at inSync
  cases tells : toldMove message with
  | some n =>
      have toldIs : told (message :: rest) = n :: told rest := List.filterMap_cons_some tells
      rw [toldIs] at inSync
      have moved := inSync.receives
      rw [Seat.receives, client2ReceiveServerResponse_told tells]
      refine kept.answers ?_
      rw [positionOf_makeMove]
      exact moved
  | none =>
      have toldIs : told (message :: rest) = told rest := List.filterMap_cons_none tells
      rw [toldIs] at inSync
      rw [Seat.receives]
      rcases client2ReceiveServerResponse_silent (t := seat.client) tells with exits | responds
      · rw [exits]
        exact ⟨inSync, kept.passed, kept.known⟩
      · rw [responds]
        exact kept.answers inSync

theorem Seat.Kept.types {line : Line} (kept : seat.Kept room player)
    (inTurn : ∀ position, scanMark line.text = some position →
      Plain line.text ∧ seat.client.currentPlayer = player) :
    (seat.types line).Kept room player := by
  rw [Seat.types]
  cases mark : scanMark line.text with
  | none => exact kept
  | some position =>
      obtain ⟨plain, turn⟩ := inTurn position mark
      have marksIs : marks (seat.outbox ++ [line.text]) = marks seat.outbox ++ [position] := by
        simp [marks, mark]
      have moved := kept.inSync.moves turn position
      refine ⟨?_, ?_, ?_⟩
      · change ticTacToe.InSync player _ (positionOf (tttMakeMove seat.client position).2) _
          (marks (seat.outbox ++ [line.text]))
        rw [marksIs, positionOf_makeMove]
        exact moved
      · change seat.sent ++ [position] = seat.passed ++ marks (seat.outbox ++ [line.text])
        rw [marksIs, kept.passed, List.append_assoc]
      · intro other member
        rcases List.mem_append.mp member with before | last
        · exact kept.known other before
        · exact Or.inr (List.mem_singleton.mp last ▸ command_of_line plain)

theorem Seat.marks_cons (seat : Seat) (outbox : seat.outbox = message :: rest)
    (mark : scanMark message = some n) : marks seat.outbox = n :: marks rest := by
  rw [outbox]
  exact List.filterMap_cons_some mark

theorem Seat.Kept.passesOwn (kept : seat.Kept room player)
    (outbox : seat.outbox = message :: rest) (mark : scanMark message = some n)
    (tells : toldMove (gameState message) = some n) :
    { seat with
      outbox := rest
      passed := seat.passed ++ [n]
      inbox := seat.inbox ++ [gameState message] }.Kept (tttMakeMove room n).2 player := by
  have marksIs := seat.marks_cons outbox mark
  have inSync := kept.inSync
  rw [marksIs] at inSync
  have served := inSync.servedOwn
  refine ⟨?_, ?_, ?_⟩
  · change ticTacToe.InSync player (positionOf (tttMakeMove room n).2) _
      (told (seat.inbox ++ [gameState message])) (marks rest)
    rw [told_append_of_some tells, positionOf_makeMove]
    exact served
  · change seat.sent = (seat.passed ++ [n]) ++ marks rest
    rw [kept.passed, marksIs, List.append_assoc]
    rfl
  · intro other member
    apply kept.known
    rw [outbox]
    exact List.mem_cons_of_mem _ member

theorem Seat.Kept.passesOther (kept : seat.Kept room player)
    (turn : room.currentPlayer ≠ player) (tells : toldMove (gameState message) = some n) :
    { seat with inbox := seat.inbox ++ [gameState message] }.Kept
      (tttMakeMove room n).2 player := by
  refine ⟨?_, kept.passed, kept.known⟩
  change ticTacToe.InSync player (positionOf (tttMakeMove room n).2) _
    (told (seat.inbox ++ [gameState message])) _
  rw [told_append_of_some tells, positionOf_makeMove]
  exact kept.inSync.servedOther turn

theorem Seat.Kept.marks_eq_nil (kept : seat.Kept room player)
    (turn : room.currentPlayer ≠ player) : marks seat.outbox = [] :=
  kept.inSync.own.eq_nil turn

theorem Seat.Kept.marks_last (kept : seat.Kept room player)
    (outbox : seat.outbox = message :: rest) (mark : scanMark message = some n)
    (made : (tttMakeMove room n).1 = true) : marks rest = [] := by
  have marksIs := seat.marks_cons outbox mark
  have inSync := kept.inSync
  rw [marksIs] at inSync
  exact inSync.last (legal_positionOf.mpr made)

end Seats

/-! ## What the server sends -/

theorem onSeat_same (game : Game) (player : Player) (change : Seat → Seat) :
    (game.onSeat player change).seat player = change (game.seat player) :=
  Function.update_self ..

theorem onSeat_other (game : Game) {player who : Player} (differs : who ≠ player)
    (change : Seat → Seat) : (game.onSeat player change).seat who = game.seat who :=
  Function.update_of_ne differs ..

theorem forall_onSeat {game : Game} (holds : Player → Seat → Prop)
    (all : ∀ player, holds player (game.seat player)) {player : Player} {change : Seat → Seat}
    (changed : holds player (change (game.seat player))) :
    ∀ who, holds who ((game.onSeat player change).seat who) := by
  intro who
  by_cases same : who = player
  · subst same
    rw [onSeat_same]
    exact changed
  · rw [onSeat_other game same]
    exact all who

theorem other_ne (player : Player) : player.other ≠ player := by
  cases player <;> decide

theorem eq_or_other (player who : Player) : who = player ∨ who = player.other := by
  cases player <;> cases who <;> decide

def Game.SeatsKept (game : Game) : Prop := ∀ player, (game.seat player).Kept game.room player

section Sending

variable {game : Game}

theorem Game.SeatsKept.onSeat (kept : game.SeatsKept) {player : Player} {change : Seat → Seat}
    (changed : (change (game.seat player)).Kept game.room player) :
    (game.onSeat player change).SeatsKept :=
  forall_onSeat (fun player seat => seat.Kept game.room player) kept changed

theorem Game.SeatsKept.sends (kept : game.SeatsKept) (player : Player) (cmd : Text)
    (silent : toldMove (gameState cmd) = none) :
    (game.server2SendGameState player cmd).SeatsKept :=
  kept.onSeat ((kept player).hears silent)

theorem Game.SeatsKept.inPhase (kept : game.SeatsKept) (phase : ServerPhase) :
    { game with phase := phase }.SeatsKept := kept

theorem Game.SeatsKept.announce (kept : game.SeatsKept) : game.announce.SeatsKept := by
  have turn := kept.sends game.room.currentPlayer turnWord rfl
  exact turn.sends game.room.currentPlayer.other waitWord rfl

theorem Game.SeatsKept.verdict (kept : game.SeatsKept) : game.verdict.SeatsKept := by
  rw [Game.verdict]
  split
  · exact (kept.sends .x winWord rfl).sends .o loseWord rfl
  · split
    · exact (kept.sends .x loseWord rfl).sends .o winWord rfl
    · split
      · exact (kept.sends .x drawWord rfl).sends .o drawWord rfl
      · exact kept.announce

theorem outbox_sends (player who : Player) (cmd : Text) :
    ((game.server2SendGameState player cmd).seat who).outbox = (game.seat who).outbox := by
  by_cases same : who = player
  · subst same
    rw [Game.server2SendGameState, onSeat_same]
  · rw [Game.server2SendGameState, onSeat_other game same]

theorem outbox_announce (who : Player) :
    (game.announce.seat who).outbox = (game.seat who).outbox :=
  (outbox_sends ..).trans (outbox_sends ..)

theorem outbox_verdict (who : Player) :
    (game.verdict.seat who).outbox = (game.seat who).outbox := by
  rw [Game.verdict]
  split
  · exact (outbox_sends ..).trans (outbox_sends ..)
  · split
    · exact (outbox_sends ..).trans (outbox_sends ..)
    · split
      · exact (outbox_sends ..).trans (outbox_sends ..)
      · exact outbox_announce who

theorem verdict_room : game.verdict.room = game.room := by
  rw [Game.verdict]
  split
  · rfl
  · split
    · rfl
    · split <;> rfl

theorem verdict_ended_iff : game.verdict.phase = .ended ↔ decided game.room = true := by
  rw [Game.verdict, decided]
  cases tttCheckWin game.room .x
  · cases tttCheckWin game.room .o
    · cases tttIsDraw game.room
      · simp [Game.announce]
      · simp
    · simp
  · simp

theorem passes_room (move : Int) (buffer : Text) :
    (game.passes move buffer).room = (tttMakeMove game.room move).2 := rfl

theorem passes_current {player : Player} (current : game.room.currentPlayer = player)
    (move : Int) (buffer : Text) :
    (game.passes move buffer).seat player = { game.seat player with
      passed := (game.seat player).passed ++ [move]
      inbox := (game.seat player).inbox ++ [gameState buffer] } := by
  subst current
  have differs := (other_ne game.room.currentPlayer).symm
  rw [Game.passes, Game.server2SendGameState, onSeat_same, Game.server2SendGameState,
    onSeat_other _ differs, onSeat_same]

theorem passes_other {player : Player} (current : game.room.currentPlayer = player)
    (move : Int) (buffer : Text) :
    (game.passes move buffer).seat player.other = { game.seat player.other with
      inbox := (game.seat player.other).inbox ++ [gameState buffer] } := by
  subst current
  have differs := other_ne game.room.currentPlayer
  rw [Game.passes, Game.server2SendGameState, onSeat_other _ differs,
    Game.server2SendGameState, onSeat_same, onSeat_other _ differs]

end Sending

/-! ## The whole room -/

/-- The commands of a seat that the server takes for the ACK that it waits for. -/
def acks : ServerPhase → List Text
  | .waitsAck => [ackWord]
  | _ => []

/-- The seat that is asked first, until its first command is played. -/
inductive Opening : ServerPhase → Seat → Prop
  | told {seat : Seat} (waiting : seat.phase = .receiving)
      (inbox : seat.inbox = [gameState turnWord]) (outbox : seat.outbox = []) :
      Opening .waitsAck seat
  | asked {phase : ServerPhase} {seat : Seat} (inbox : seat.inbox = [])
      (outbox : seat.outbox = acks phase) : Opening phase seat
  | answered {phase : ServerPhase} {seat : Seat} (silent : seat.phase ≠ .prompting)
      (inbox : seat.inbox = []) {message : Text} (command : Command message)
      (outbox : seat.outbox = acks phase ++ [message]) : Opening phase seat

structure Game.Kept (game : Game) : Prop where
  seats : game.SeatsKept
  last : game.phase = .ended → ∀ player, marks (game.seat player).outbox = []
  going : game.phase ≠ .ended → decided game.room = false ∨
    game.room.currentPlayer = .x ∧ Opening game.phase (game.seat .x)

section Steps

variable {game : Game} {message : Text} {rest : List Text}

/-- The server takes what stands first in the stream of the player to move. -/
def Game.takes (game : Game) (rest : List Text) : Game :=
  game.onSeat game.room.currentPlayer fun seat => { seat with outbox := rest }

theorem takes_room (rest : List Text) : (game.takes rest).room = game.room := rfl

theorem takes_current {player : Player} (current : game.room.currentPlayer = player)
    (rest : List Text) :
    (game.takes rest).seat player = { game.seat player with outbox := rest } := by
  subst current
  exact onSeat_same ..

theorem takes_other {player : Player} (current : game.room.currentPlayer = player)
    (rest : List Text) : (game.takes rest).seat player.other = game.seat player.other := by
  subst current
  exact onSeat_other _ (other_ne _) _

theorem Game.SeatsKept.passes (kept : game.SeatsKept)
    (outbox : (game.seat game.room.currentPlayer).outbox = message :: rest)
    {n : Int} (mark : scanMark message = some n)
    (tells : toldMove (gameState message) = some n) :
    ((game.takes rest).passes n message).SeatsKept := by
  intro who
  have current : (game.takes rest).room.currentPlayer = game.room.currentPlayer := rfl
  rcases eq_or_other game.room.currentPlayer who with same | differs
  · subst same
    rw [passes_current current, takes_current rfl]
    exact (kept _).passesOwn outbox mark tells
  · subst differs
    rw [passes_other current, takes_other rfl]
    exact (kept _).passesOther (other_ne _).symm tells

/-- When a command has been played that decides the game, no other is in flight. -/
theorem Game.Kept.last_of_decided (kept : game.Kept) (phase : game.phase = .waitsMove)
    (outbox : (game.seat game.room.currentPlayer).outbox = message :: rest)
    {n : Int} (mark : scanMark message = some n)
    (ends : decided (tttMakeMove game.room n).2 = true) : marks rest = [] := by
  by_cases made : (tttMakeMove game.room n).1 = true
  · exact (kept.seats _).marks_last outbox mark made
  · -- the game was decided before, which is possible in front of the first command only
    rw [tttMakeMove_of_not_made made] at ends
    have opening := (kept.going (by rw [phase]; decide)).resolve_left (by rw [ends]; decide)
    rw [opening.1] at outbox
    have alone : rest = [] := by
      rw [phase] at opening
      cases opening.2 with
      | asked inbox none => rw [none] at outbox; cases outbox
      | answered silent inbox known one =>
          rw [one] at outbox
          exact (List.cons.inj outbox).2.symm
    rw [alone]
    rfl

theorem handles_kept (kept : game.Kept) (phase : game.phase = .waitsMove)
    (outbox : (game.seat game.room.currentPlayer).outbox = message :: rest) :
    ((game.takes rest).handles message).Kept := by
  have going := kept.going (by rw [phase]; decide)
  have first : message ∈ (game.seat game.room.currentPlayer).outbox := by
    rw [outbox]
    exact List.mem_cons_self ..
  rw [Game.handles]
  rcases (kept.seats _).known message first with ack | command
  · -- the loop looks for a move in an ACK and starts again
    subst ack
    have none : server2Move ackWord = none := rfl
    rw [none]
    have taken : (game.takes rest).SeatsKept := kept.seats.onSeat ((kept.seats _).taken outbox rfl)
    refine ⟨taken.announce, (fun ended => nomatch ended), fun _ => Or.inl ?_⟩
    rcases going with undecided | ⟨atX, opening⟩
    · exact undecided
    · rw [atX] at outbox
      rw [phase] at opening
      cases opening with
      | asked inbox none => rw [none] at outbox; cases outbox
      | answered silent inbox known one =>
          rw [one] at outbox
          exact absurd ((List.cons.inj outbox).1 ▸ known) not_command_ack
  · obtain ⟨n, mark, passed, tells⟩ := command_reads command
    rw [passed]
    rw [command.asSent] at tells ⊢
    have seats := kept.seats.passes outbox mark tells
    refine ⟨seats.verdict, ?_, ?_⟩
    · intro ended player
      have ends := verdict_ended_iff.mp ended
      rw [passes_room, takes_room] at ends
      have alone := kept.last_of_decided phase outbox mark ends
      have current : (game.takes rest).room.currentPlayer = game.room.currentPlayer := rfl
      rw [outbox_verdict]
      rcases eq_or_other game.room.currentPlayer player with same | differs
      · subst same
        rw [passes_current current, takes_current rfl]
        exact alone
      · subst differs
        rw [passes_other current, takes_other rfl]
        exact (kept.seats _).marks_eq_nil (other_ne _).symm
    · intro goesOn
      left
      rw [verdict_room]
      by_contra ends
      exact goesOn (verdict_ended_iff.mpr (by simpa using ends))

theorem acked_kept (kept : game.Kept) (phase : game.phase = .waitsAck)
    (outbox : (game.seat game.room.currentPlayer).outbox = message :: rest)
    (noMove : scanMark message = none) :
    { game.takes rest with phase := .waitsMove }.Kept := by
  have taken : (game.takes rest).SeatsKept :=
    kept.seats.onSeat ((kept.seats _).taken outbox noMove)
  refine ⟨taken, (fun ended => nomatch ended), fun _ => ?_⟩
  rcases kept.going (by rw [phase]; decide) with undecided | ⟨atX, opening⟩
  · exact Or.inl undecided
  · right
    refine ⟨atX, ?_⟩
    change Opening .waitsMove ((game.takes rest).seat .x)
    rw [atX] at outbox
    rw [takes_current atX]
    rw [phase] at opening
    cases opening with
    | told waiting inbox none => rw [none] at outbox; cases outbox
    | asked inbox one =>
        rw [one] at outbox
        exact .asked inbox (List.cons.inj outbox).2.symm
    | answered silent inbox command two =>
        rw [two] at outbox
        exact .answered silent inbox command (List.cons.inj outbox).2.symm

theorem recvFails_kept (kept : game.Kept) (goesOn : game.phase ≠ .ended)
    (outbox : (game.seat game.room.currentPlayer).outbox = [])
    (gone : (game.seat game.room.currentPlayer).phase = .exited) :
    game.serverRecvFails.Kept := by
  rw [Game.serverRecvFails]
  cases phase : game.phase with
  | ended => exact absurd phase goesOn
  | waitsMove =>
      refine ⟨kept.seats, fun _ player => ?_, fun goesOn => absurd rfl goesOn⟩
      rcases eq_or_other game.room.currentPlayer player with same | differs
      · subst same
        change marks (game.seat _).outbox = []
        rw [outbox]
        rfl
      · subst differs
        exact (kept.seats _).marks_eq_nil (other_ne _).symm
  | waitsAck =>
      refine ⟨kept.seats, (fun ended => nomatch ended), fun _ => Or.inl ?_⟩
      rcases kept.going goesOn with undecided | ⟨atX, opening⟩
      · exact undecided
      · rw [atX] at outbox gone
        rw [phase] at opening
        cases opening with
        | told waiting inbox none => rw [waiting] at gone; cases gone
        | asked inbox one => rw [one] at outbox; cases outbox
        | answered silent inbox command two => rw [two] at outbox; cases outbox

/-! ## What a client does -/

theorem Game.Kept.onSeat (kept : game.Kept) {player : Player} {change : Seat → Seat}
    (changed : (change (game.seat player)).Kept game.room player)
    (sends : game.phase = .ended →
      marks (change (game.seat player)).outbox = marks (game.seat player).outbox)
    (opening : game.phase ≠ .ended → player = .x → Opening game.phase (game.seat .x) →
      Opening game.phase (change (game.seat .x))) :
    (game.onSeat player change).Kept := by
  refine ⟨kept.seats.onSeat changed, fun ended => ?_, fun goesOn => ?_⟩
  · refine forall_onSeat (fun _ seat => marks seat.outbox = []) (kept.last ended) ?_
    rw [sends ended]
    exact kept.last ended player
  · rcases kept.going goesOn with undecided | ⟨atX, first⟩
    · exact Or.inl undecided
    · refine Or.inr ⟨atX, ?_⟩
      by_cases same : player = .x
      · subst same
        rw [onSeat_same]
        exact opening goesOn rfl first
      · rw [onSeat_other game fun equal => same equal.symm]
        exact first

/-- Every line that a client accepts is read alike by all, its own board says that it
is to move, and the server is still in the game; and the server finds no command where
it waits for the ACK. -/
def InTurn (game : Game) : Event → Prop
  | .clientTypes player line => ∀ position, scanMark line.text = some position →
      Plain line.text ∧ (game.seat player).client.currentPlayer = player ∧
        game.phase ≠ .ended
  | .serverReceives => game.phase = .waitsAck →
      ∀ message rest, (game.seat game.room.currentPlayer).outbox = message :: rest →
        scanMark message = none
  | _ => True

instance (text : Text) : Decidable (Plain text) := inferInstanceAs (Decidable (_ ∧ _))

instance (game : Game) (event : Event) : Decidable (InTurn game event) :=
  match event with
  | .clientTypes player line =>
      match mark : scanMark line.text with
      | none => isTrue fun _ found => nomatch mark.symm.trans found
      | some position =>
          decidable_of_iff (Plain line.text ∧
              (game.seat player).client.currentPlayer = player ∧ game.phase ≠ .ended)
            ⟨fun conditions _ _ => conditions, fun inTurn => inTurn position mark⟩
  | .serverReceives =>
      match first : (game.seat game.room.currentPlayer).outbox with
      | [] => isTrue fun _ _ _ found => nomatch first.symm.trans found
      | message :: rest =>
          decidable_of_iff (game.phase = .waitsAck → scanMark message = none)
            ⟨fun noMove phase _ _ found => (List.cons.inj (first.symm.trans found)).1 ▸ noMove phase,
              fun inTurn phase => inTurn phase message rest first⟩
  | .clientReceives _ => isTrue trivial
  | .clientReadFails _ => isTrue trivial

theorem marks_receives (seat : Seat) (message : Text) (rest : List Text) :
    marks (seat.receives message rest).outbox = marks seat.outbox := by
  rw [Seat.receives]
  split
  · rfl
  · exact marks_append_ack _

theorem opening_receives {phase : ServerPhase} {seat : Seat} (opening : Opening phase seat)
    (inbox : seat.inbox = message :: rest) : Opening phase (seat.receives message rest) := by
  cases opening with
  | told waiting first none =>
      rw [first] at inbox
      obtain ⟨rfl, rfl⟩ := List.cons.inj inbox
      have responds : seat.receives (gameState turnWord) [] = { seat with
          client := seat.client
          phase := .prompting
          inbox := []
          outbox := seat.outbox ++ [ackWord] } := rfl
      rw [responds, none]
      exact .asked rfl rfl
  | asked empty _ => rw [empty] at inbox; cases inbox
  | answered _ empty _ _ => rw [empty] at inbox; cases inbox

theorem afterTurn_ne_prompting (t : TicTacToe) : ClientPhase.afterTurn t ≠ .prompting := by
  rw [ClientPhase.afterTurn]
  split <;> decide

theorem opening_types {phase : ServerPhase} {seat : Seat} {line : Line}
    (opening : Opening phase seat) (prompting : seat.phase = .prompting)
    (plain : ∀ position, scanMark line.text = some position → Plain line.text) :
    Opening phase (seat.types line) := by
  rw [Seat.types]
  cases mark : scanMark line.text with
  | none => exact opening
  | some position =>
      cases opening with
      | told waiting _ _ => rw [waiting] at prompting; cases prompting
      | answered silent _ _ _ => exact absurd prompting silent
      | asked inbox outbox =>
          have sent : seat.outbox ++ [line.text] = acks phase ++ [line.text] := by rw [outbox]
          exact .answered (afterTurn_ne_prompting _) inbox
            (command_of_line (plain position mark)) sent

theorem opening_readFails {phase : ServerPhase} {seat : Seat} (opening : Opening phase seat)
    (prompting : seat.phase = .prompting) : Opening phase seat.readFails := by
  cases opening with
  | told waiting _ _ => rw [waiting] at prompting; cases prompting
  | answered silent _ _ _ => exact absurd prompting silent
  | asked inbox outbox => exact .asked inbox outbox

theorem step_preserves_kept {next : Game} {event : Event} (kept : game.Kept)
    (inTurn : InTurn game event) (taken : step game event = some next) : next.Kept := by
  cases event with
  | serverReceives =>
      simp only [step] at taken
      split at taken
      · cases taken
      · rename_i goesOn
        split at taken
        · rename_i message rest outbox
          obtain rfl := Option.some.inj taken
          rw [Game.serverReceives]
          cases phase : game.phase with
          | ended => exact absurd phase goesOn
          | waitsAck =>
              exact acked_kept kept phase outbox (inTurn phase message rest outbox)
          | waitsMove => exact handles_kept kept phase outbox
        · rename_i outbox
          split at taken
          · rename_i gone
            obtain rfl := Option.some.inj taken
            exact recvFails_kept kept goesOn outbox gone
          · cases taken
  | clientReceives player =>
      simp only [step] at taken
      split at taken
      · split at taken
        · rename_i message rest inbox
          obtain rfl := Option.some.inj taken
          refine kept.onSeat ((kept.seats player).receives inbox)
            (fun _ => marks_receives ..) fun _ atX opening => ?_
          subst atX
          exact opening_receives opening inbox
        · split at taken
          · rename_i ended
            obtain rfl := Option.some.inj taken
            exact kept.onSeat ((kept.seats player).inPhase _) (fun _ => rfl)
              fun goesOn => absurd ended goesOn
          · cases taken
      · cases taken
  | clientTypes player line =>
      simp only [step] at taken
      split at taken
      · rename_i prompting
        obtain rfl := Option.some.inj taken
        refine kept.onSeat ?_ ?_ ?_
        · exact (kept.seats player).types fun position mark =>
            ⟨(inTurn position mark).1, (inTurn position mark).2.1⟩
        · intro ended
          rw [Seat.types]
          cases mark : scanMark line.text with
          | none => rfl
          | some position => exact absurd ended (inTurn position mark).2.2
        · intro _ atX opening
          subst atX
          exact opening_types opening prompting fun position mark => (inTurn position mark).1
      · cases taken
  | clientReadFails player =>
      simp only [step] at taken
      split at taken
      · rename_i prompting
        obtain rfl := Option.some.inj taken
        refine kept.onSeat ((kept.seats player).inPhase _) (fun _ => rfl) fun _ atX opening => ?_
        subst atX
        exact opening_readFails opening prompting
      · cases taken

end Steps

theorem start_kept (turnCount : Int) : (start turnCount).Kept := by
  refine ⟨?_, (fun ended => nomatch ended), fun _ => Or.inr ⟨rfl, .told rfl rfl rfl⟩⟩
  refine Game.SeatsKept.announce fun player => ?_
  exact ⟨Turns.inSync_start player _, rfl, fun message member => absurd member List.not_mem_nil⟩

/-! ## Every run -/

/-- Each move that a client has sent has been passed to `ttt_makeMove` once, in order, or
is on its way, and none is left behind when the server is done; and whenever the server
waits for a move with none in flight, both boards are the room's. -/
structure Faithful (game : Game) : Prop where
  passed : ∀ player, (game.seat player).sent =
    (game.seat player).passed ++ marks (game.seat player).outbox
  last : game.phase = .ended → ∀ player, marks (game.seat player).outbox = []
  boards : game.phase = .waitsMove →
    (∀ player, told (game.seat player).inbox = [] ∧ marks (game.seat player).outbox = []) →
      ∀ player, (game.seat player).client.board = game.room.board

theorem Game.Kept.faithful {game : Game} (kept : game.Kept) : Faithful game where
  passed player := (kept.seats player).passed
  last := kept.last
  boards _ quiet player := by
    have inSync := (kept.seats player).inSync
    rw [(quiet player).1, (quiet player).2] at inSync
    exact congrArg Prod.fst inSync.agree

theorem run_faithful {turnCount : Int} {events : List Event} {game : Game}
    (inTurn : Meets step InTurn (start turnCount) events)
    (reached : run step (start turnCount) events = some game) : Faithful game :=
  (run_preserves (fun _ _ _ kept allowed taken => step_preserves_kept kept allowed taken)
    (start_kept turnCount) inTurn reached).faithful

/-! ## Two short games -/

def markZero : Line where
  chars := [77, 65, 82, 75, 32, 48, 10]
  fits := by decide
  ends := by decide

def afterEvents (events : List Event) : Game := runEnd step (start 0) events

/-- X is asked, marks a cell, and both clients hear of it before the server waits for
the move of O. -/
def firstMove : List Event :=
  [.clientReceives .x, .clientTypes .x markFive, .serverReceives, .serverReceives,
    .clientReceives .x, .clientReceives .o, .clientReceives .o, .serverReceives]

theorem firstMove_faithful : Faithful (afterEvents firstMove) := by
  have inTurn : Meets step InTurn (start 0) firstMove := by decide +kernel
  exact run_faithful inTurn (run_eq_runEnd (by decide +kernel))

/-- X marks no cell, hears of it and is asked again.  The server takes the ACK of the
first of these messages for a move, asks a third time, and takes the second command of
X for the ACK. -/
def secondMark : List Event :=
  [.clientReceives .x, .clientTypes .x markZero, .serverReceives, .serverReceives,
    .clientReceives .x, .clientReceives .x, .clientTypes .x markFive,
    .serverReceives, .serverReceives, .serverReceives]

/-- The second command of X is never passed to `ttt_makeMove`. -/
theorem secondMark_not_faithful :
    run step (start 0) secondMark = some (afterEvents secondMark) ∧
      ¬ Faithful (afterEvents secondMark) := by
  refine ⟨run_eq_runEnd (by decide +kernel), ?_⟩
  intro faithful
  have passed := faithful.passed .x
  exact absurd passed (by decide +kernel)

end Cmput313.Ttt.Part2
