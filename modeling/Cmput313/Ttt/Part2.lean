import Cmput313.Lib.Machine
import Cmput313.Ttt.Commands

/-!
# Clients and server of part 2

`client2_runGame` and `server2_runGame`: one room, its two clients and the messages
in flight.  A message is delivered once and in order, and one `recv` receives what one
`send` has sent, also from a client that is gone.
-/

set_option autoImplicit false

namespace Cmput313.Ttt.Part2

open Cmput313.CText Cmput313.Machine

/-! ## Words -/

def turnWord : Text := [84, 85, 82, 78]

def waitWord : Text := [87, 65, 73, 84]

def winWord : Text := [87, 73, 78]

def loseWord : Text := [76, 79, 83, 69]

def drawWord : Text := [68, 82, 65, 87]

def ackWord : Text := [65, 67, 75]

/-! ## The client -/

def scanMark (command : Text) : Option Int :=
  if markWord <+: command then (scanInt (command.drop 4)).map Prod.fst else none

def toldMove (buffer : Text) : Option Int :=
  match scanCommand (cText buffer) with
  | some (cmd, n) => if cmd = markWord then some n else none
  | none => none

/-- What `client2_receiveServerResponse` comes to: the end of the client, or the
response that the caller gets. -/
inductive Reception where
  | exits
  | responds (t : TicTacToe) (response : Text)

def client2ReceiveServerResponse (t : TicTacToe) (buffer : Text) : Reception :=
  let response := cText buffer
  match scanCommand response with
  | some _ =>
      match toldMove buffer with
      | some n => .responds (tttMakeMove t n).2 response
      | none => .responds t response
  | none =>
      if response = winWord ∨ response = loseWord ∨ response = drawWord then .exits
      else .responds t response

theorem client2ReceiveServerResponse_told {t : TicTacToe} {buffer : Text} {n : Int}
    (tells : toldMove buffer = some n) :
    client2ReceiveServerResponse t buffer = .responds (tttMakeMove t n).2 (cText buffer) := by
  cases scanned : scanCommand (cText buffer) with
  | none => simp [toldMove, scanned] at tells
  | some found => simp only [client2ReceiveServerResponse, scanned, tells]

theorem client2ReceiveServerResponse_silent {t : TicTacToe} {buffer : Text}
    (silent : toldMove buffer = none) :
    client2ReceiveServerResponse t buffer = .exits ∨
      client2ReceiveServerResponse t buffer = .responds t (cText buffer) := by
  cases scanned : scanCommand (cText buffer) with
  | some found =>
      right
      simp only [client2ReceiveServerResponse, scanned, silent]
  | none =>
      simp only [client2ReceiveServerResponse, scanned]
      split
      · exact Or.inl rfl
      · exact Or.inr rfl

inductive ClientPhase where
  | receiving
  | prompting
  | exited
  deriving DecidableEq

/-- The end of the loop of `client2_runGame`. -/
def ClientPhase.afterTurn (t : TicTacToe) : ClientPhase :=
  if decided t then .exited else .receiving

/-! ## One seat of the room -/

/-- A client, the messages to it and from it, and the moves that it has sent and that
the server has passed to `ttt_makeMove`. -/
structure Seat where
  client : TicTacToe
  phase : ClientPhase
  inbox : List Text
  outbox : List Text
  sent : List Int
  passed : List Int

def Seat.receives (seat : Seat) (message : Text) (rest : List Text) : Seat :=
  match client2ReceiveServerResponse seat.client message with
  | .exits => { seat with phase := .exited, inbox := rest }
  | .responds t response =>
      { seat with
        client := t
        phase := if response = turnWord then .prompting else .afterTurn t
        inbox := rest
        outbox := seat.outbox ++ [ackWord] }

def Seat.types (seat : Seat) (line : Line) : Seat :=
  match scanMark line.text with
  | some position =>
      let t := (tttMakeMove seat.client position).2
      { seat with
        client := t
        phase := .afterTurn t
        outbox := seat.outbox ++ [line.text]
        sent := seat.sent ++ [position] }
  | none => seat

def Seat.readFails (seat : Seat) : Seat := { seat with phase := .afterTurn seat.client }

/-! ## The server -/

/-- `strncmp(buffer, "MARK ", 5) == 0`, and then `atoi(buffer + 5)`. -/
def server2Move (buffer : Text) : Option Int :=
  if markWord ++ [32] <+: cText buffer then some (atoi ((cText buffer).drop 5)) else none

/-- Which `recv` of its loop the server waits in. -/
inductive ServerPhase where
  | waitsAck
  | waitsMove
  | ended
  deriving DecidableEq

structure Game where
  room : TicTacToe
  phase : ServerPhase
  seat : Player → Seat

def Game.onSeat (game : Game) (player : Player) (change : Seat → Seat) : Game :=
  { game with seat := Function.update game.seat player (change (game.seat player)) }

def Game.server2SendGameState (game : Game) (player : Player) (cmd : Text) : Game :=
  game.onSeat player fun seat => { seat with inbox := seat.inbox ++ [gameState cmd] }

def Game.announce (game : Game) : Game :=
  let current := game.room.currentPlayer
  let game := game.server2SendGameState current turnWord
  let game := game.server2SendGameState current.other waitWord
  { game with phase := .waitsAck }

def Game.verdict (game : Game) : Game :=
  if tttCheckWin game.room .x then
    let game := game.server2SendGameState .x winWord
    let game := game.server2SendGameState .o loseWord
    { game with phase := .ended }
  else if tttCheckWin game.room .o then
    let game := game.server2SendGameState .x loseWord
    let game := game.server2SendGameState .o winWord
    { game with phase := .ended }
  else if tttIsDraw game.room then
    let game := game.server2SendGameState .x drawWord
    let game := game.server2SendGameState .o drawWord
    { game with phase := .ended }
  else game.announce

/-- A command is passed to `ttt_makeMove`, which may refuse it, and to both clients. -/
def Game.passes (game : Game) (move : Int) (buffer : Text) : Game :=
  let current := game.room.currentPlayer
  let game := { game with room := (tttMakeMove game.room move).2 }
  let game := game.onSeat current fun seat => { seat with passed := seat.passed ++ [move] }
  let game := game.server2SendGameState current.other buffer
  game.server2SendGameState current buffer

/-- What the loop makes of the message in which it looks for a move. -/
def Game.handles (game : Game) (buffer : Text) : Game :=
  match server2Move buffer with
  | some move => (game.passes move (cText buffer)).verdict
  | none => game.announce

def Game.serverReceives (game : Game) (message : Text) (rest : List Text) : Game :=
  let phase := game.phase
  let game := game.onSeat game.room.currentPlayer fun seat => { seat with outbox := rest }
  match phase with
  | .waitsAck => { game with phase := .waitsMove }
  | .waitsMove => game.handles message
  | .ended => game

/-- The client of the player to move is gone: the first `recv` does not look at its
result. -/
def Game.serverRecvFails (game : Game) : Game :=
  match game.phase with
  | .waitsAck => { game with phase := .waitsMove }
  | .waitsMove => { game with phase := .ended }
  | .ended => game

/-! ## Runs -/

/-- Both clients have joined.  `server2_runGame` sets the board and the player to move,
and leaves `turnCount` as `malloc` has returned it. -/
def start (turnCount : Int) : Game :=
  Game.announce {
    room := { board := blankBoard, currentPlayer := .x, turnCount := turnCount }
    phase := .waitsAck
    seat := fun _ =>
      { client := tttNew
        phase := .receiving
        inbox := []
        outbox := []
        sent := []
        passed := [] } }

inductive Event where
  | serverReceives
  | clientReceives (player : Player)
  | clientTypes (player : Player) (line : Line)
  | clientReadFails (player : Player)

/-- `recv` waits while nothing is in flight and the other side is there. -/
def step (game : Game) : Event → Option Game
  | .serverReceives =>
      if game.phase = .ended then none
      else
        match (game.seat game.room.currentPlayer).outbox with
        | message :: rest => some (game.serverReceives message rest)
        | [] =>
            if (game.seat game.room.currentPlayer).phase = .exited then
              some game.serverRecvFails
            else none
  | .clientReceives player =>
      if (game.seat player).phase = .receiving then
        match (game.seat player).inbox with
        | message :: rest => some (game.onSeat player fun seat => seat.receives message rest)
        | [] =>
            if game.phase = .ended then
              some (game.onSeat player fun seat => { seat with phase := .exited })
            else none
      else none
  | .clientTypes player line =>
      if (game.seat player).phase = .prompting then
        some (game.onSeat player fun seat => seat.types line)
      else none
  | .clientReadFails player =>
      if (game.seat player).phase = .prompting then some (game.onSeat player Seat.readFails)
      else none

end Cmput313.Ttt.Part2
