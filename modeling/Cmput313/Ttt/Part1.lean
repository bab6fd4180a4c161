import Cmput313.Lib.Machine
import Cmput313.Ttt.Commands

/-!
# Client and server of part 1

`client-p1.c` and `server-p1.c`: what each makes of a line typed at its terminal and
of a message from the other side, and the steps of both with the messages in flight.
A message is delivered once, in order and whole.
-/

set_option autoImplicit false

namespace Cmput313.Ttt.Part1

open Cmput313.CText Cmput313.Machine

def timeoutWord : Text := [84, 73, 77, 69, 79, 85, 84]

def timeoutCommand : Text := timeoutWord ++ [32, 45, 49]

/-! ## The client -/

/-- What comes of one line: another prompt, or a command to send, after which the
client waits or is done. -/
inductive Attempt where
  | again
  | sends (command : Text) (t : TicTacToe) (exits : Bool)

def inputParser (t : TicTacToe) (command : Text) : Attempt :=
  match scanCommand command with
  | none => .again
  | some (cmd, n) =>
      if cmd = markWord then
        let (made, t) := tttMakeMove t n
        if made then .sends command t (decided t) else .again
      else
        .again

def clientReceiveServerResponse (t : TicTacToe) (buffer : Text) : TicTacToe :=
  match scanCommand (cText buffer) with
  | some (cmd, n) => if cmd = markWord then (tttMakeMove t n).2 else t
  | none => t

/-! ## The server -/

inductive Handling where
  | crashes
  | timesOut
  | ignores
  | plays (t : TicTacToe) (buffer : Text)

/-- The body of `server_runGame`: `strcmp` and `atoi` crash where there is no token
for them. -/
def handleMessage (t : TicTacToe) (buffer : Text) : Handling :=
  match strtok (cText buffer) with
  | none => .crashes
  | some (token, rest) =>
      if token = timeoutWord then .timesOut
      else
        match strtok rest with
        | none => .crashes
        | some (token, _) =>
            let (made, t) := tttMakeMove t (atoi token)
            if made then .plays t (strtokCut (cText buffer)) else .ignores

/-- One line of `server_handleServerMove`.  The first word is not looked at. -/
def serverHandleServerMove (t : TicTacToe) (command : Text) : Attempt :=
  match scanCommand command with
  | none => .again
  | some (_, n) =>
      let (made, t) := tttMakeMove t n
      if made then .sends command t (decided t) else .again

/-! ## Both together -/

inductive ClientPhase where
  | prompting
  | waiting
  | exited
  deriving DecidableEq

inductive ServerPhase where
  | receiving
  | prompting
  | exited
  deriving DecidableEq

structure Game where
  client : TicTacToe
  clientPhase : ClientPhase
  server : TicTacToe
  serverPhase : ServerPhase
  toServer : List Text
  toClient : List Text
  deriving DecidableEq

def start : Game where
  client := tttNew
  clientPhase := .prompting
  server := tttNew
  serverPhase := .receiving
  toServer := []
  toClient := []

inductive Event where
  | clientTypes (line : Line)
  | clientReadFails
  | clientTimesOut
  | clientReceives
  | serverReceives
  | operatorTypes (line : Line)
  | operatorReadFails

def Game.clientTypes (game : Game) (line : Line) : Game :=
  match inputParser game.client line.command with
  | .again => game
  | .sends command t exits =>
      { game with
        client := t
        clientPhase := if exits then .exited else .waiting
        toServer := game.toServer ++ [command] }

/-- The client looks at the board whatever the message was, and sends the message
back when the game is decided. -/
def Game.clientReceives (game : Game) (message : Text) (rest : List Text) : Game :=
  let t := clientReceiveServerResponse game.client message
  { game with
    client := t
    clientPhase := if decided t then .exited else .prompting
    toClient := rest
    toServer := if decided t then game.toServer ++ [cText message] else game.toServer }

/-- A process that crashes is gone like one that exits. -/
def Game.serverReceives (game : Game) (message : Text) (rest : List Text) : Game :=
  let game := { game with toServer := rest }
  match handleMessage game.server message with
  | .crashes => { game with serverPhase := .exited }
  | .timesOut => { game with serverPhase := .exited }
  | .ignores => game
  | .plays t buffer =>
      if decided t then
        { game with
          server := t
          serverPhase := .exited
          toClient := game.toClient ++ [gameState buffer] }
      else
        { game with server := t, serverPhase := .prompting }

def Game.operatorTypes (game : Game) (line : Line) : Game :=
  match serverHandleServerMove game.server line.command with
  | .again => game
  | .sends command t exits =>
      { game with
        server := t
        serverPhase := if exits then .exited else .receiving
        toClient := game.toClient ++ [gameState command] }

/-- `recv` waits while nothing is in flight and the other side is there; once that is
gone, it fails and the process exits. -/
def step (game : Game) : Event → Option Game
  | .clientTypes line =>
      if game.clientPhase = .prompting then some (game.clientTypes line) else none
  | .clientReadFails => if game.clientPhase = .prompting then some game else none
  | .clientTimesOut =>
      if game.clientPhase = .prompting then
        some { game with
          clientPhase := .exited
          toServer := game.toServer ++ [timeoutCommand] }
      else none
  | .clientReceives =>
      if game.clientPhase = .waiting then
        match game.toClient with
        | message :: rest => some (game.clientReceives message rest)
        | [] =>
            if game.serverPhase = .exited then some { game with clientPhase := .exited }
            else none
      else none
  | .serverReceives =>
      if game.serverPhase = .receiving then
        match game.toServer with
        | message :: rest => some (game.serverReceives message rest)
        | [] =>
            if game.clientPhase = .exited then some { game with serverPhase := .exited }
            else none
      else none
  | .operatorTypes line =>
      if game.serverPhase = .prompting then some (game.operatorTypes line) else none
  | .operatorReadFails => if game.serverPhase = .prompting then some game else none

end Cmput313.Ttt.Part1
