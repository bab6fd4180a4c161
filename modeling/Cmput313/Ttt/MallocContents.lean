import Cmput313.Lib.Unwinding
import Cmput313.Ttt.RoomEvents

/-!
# What malloc returned

Two runs of the server of part 2 with the same clients, each with its own contents of
the blocks that `server2_new` and `server2_runGame` allocate.  Of these contents the
server reads `gameRunning`, when a second player joins, and `turnCount`, when it tests
for a draw, before it has written them.
-/

set_option autoImplicit false

namespace Cmput313.Ttt.Part2

open Cmput313.CText Cmput313.Machine Cmput313.Unwinding

/-! ## What the clients see -/

/-- A client is given a seat or is turned away, or is sent a message. -/
inductive Output where
  | accepts (clientSocket : Nat)
  | refuses (clientSocket : Nat)
  | sends (socket : Int) (message : Text)
  deriving DecidableEq

def Room.anyBroken (room : Room) : Bool := room.broken .x || room.broken .o

/-- Messages to the seats, up to the first whose connection is broken. -/
def Room.sends (room : Room) : List (Player × Text) → List Output
  | [] => []
  | (seat, cmd) :: rest =>
      if room.broken seat then []
      else .sends (room.state.socket seat) (gameState cmd) :: room.sends rest

def Room.receiveOutputs (room : Room) (buffer : Text) : List Output :=
  match room.game with
  | none => []
  | some (_, .forAck) => []
  | some (t, .forMove) => room.sends (moveMessages t buffer)

def Room.joinOutputs (room : Room) (clientSocket : Nat) : List Output :=
  match server2JoinRoom room.state clientSocket with
  | .creates => [.accepts clientSocket]
  | .plays state =>
      let room := { room with state := state, broken := Function.update room.broken .o false }
      .accepts clientSocket :: room.sends [(.x, turnWord), (.o, waitWord)]
  | .blocked _ => [.refuses clientSocket]
  | .full => [.refuses clientSocket]

def Server.outputs (server : Server) : RoomEvent → List Output
  | .breaks _ _ => []
  | .firstMessage clientSocket buffer _ _ =>
      match joinedRoom buffer with
      | some i => (server i).joinOutputs clientSocket
      | none => if joinWord <+: cText buffer then [.refuses clientSocket] else []
  | .firstMessageFails => []
  | .receives i buffer _ => (server i).receiveOutputs buffer
  | .recvFails _ => []

/-! ## The contents of the blocks -/

/-- What the blocks hold before they are written.  A room has one game at most, since the
process exits behind it. -/
structure MallocContents where
  gameRoom : Fin 5 → GameRoom
  ticTacToe : Fin 5 → TicTacToe

def server2New (contents : MallocContents) : Server := fun i =>
  { state := { contents.gameRoom i with
      player1Socket := -1
      player2Socket := -1
      numActivePlayers := 0 }
    game := none
    broken := fun _ => false }

/-- The game at the top of `server2_runGame`. -/
def newGame (contents : MallocContents) (i : Fin 5) : TicTacToe :=
  { contents.ticTacToe i with board := blankBoard, currentPlayer := .x }

/-- What the clients do.  Their connections break between two of these events. -/
inductive ClientEvent where
  | breaks (i : Fin 5) (seat : Player)
  | firstMessage (clientSocket : Nat) (buffer : Text)
  | firstMessageFails
  | receives (i : Fin 5) (buffer : Text)
  | recvFails (i : Fin 5)

/-- The event with the `turnCount` of the game that it may start. -/
def ClientEvent.on (contents : MallocContents) : ClientEvent → RoomEvent
  | .breaks i seat => .breaks i seat
  | .firstMessage clientSocket buffer => .firstMessage clientSocket buffer
      (match joinedRoom buffer with
        | some i => (newGame contents i).turnCount
        | none => 0) noBreaks
  | .firstMessageFails => .firstMessageFails
  | .receives i buffer => .receives i buffer noBreaks
  | .recvFails i => .recvFails i

def process (contents : MallocContents) : Reactive Server ClientEvent (List Output) where
  step server event := server.step (event.on contents)
  output server event := server.outputs (event.on contents)

def behaviour (contents : MallocContents) (events : List ClientEvent) : List (List Output) :=
  observe (process contents) [] (some (server2New contents)) events

/-! ## The two reads -/

def won (t : TicTacToe) : Bool := tttCheckWin t .x || tttCheckWin t .o

/-- A move from 1 to 9 to a blank cell. -/
def IsLegal (t : TicTacToe) (move : Int) : Prop :=
  (1 ≤ move ∧ move ≤ 9) ∧ t.board (cellOf move).1 (cellOf move).2 = none

instance (t : TicTacToe) (move : Int) : Decidable (IsLegal t move) :=
  inferInstanceAs (Decidable (_ ∧ _))

def boardBehind (t : TicTacToe) (move : Int) : Board :=
  if IsLegal t move then t.board.mark (cellOf move).1 (cellOf move).2 t.currentPlayer
  else t.board

/-- The count that a move leaves; only a legal one is counted. -/
def countBehind (t : TicTacToe) (move : Int) : Int :=
  if IsLegal t move then t.turnCount + 1 else t.turnCount

/-- A move that completes no line brings the count to 9 in both games or in neither. -/
def CountsAgree (t u : TicTacToe) (move : Int) : Prop :=
  won { t with board := boardBehind t move } = false →
    (countBehind t move = 9 ↔ countBehind u move = 9)

/-- Where a second player joins a room, `gameRunning` is the same; and where a move is
passed on to both clients, the counts agree. -/
def ReadsAgree (first second : Server) : ClientEvent → Prop
  | .firstMessage _ buffer => ∀ i, joinedRoom buffer = some i →
      (first i).state.numActivePlayers = 1 →
        (first i).state.gameRunning = (second i).state.gameRunning
  | .receives i buffer => ∀ t u move,
      (first i).game = some (t, .forMove) → (second i).game = some (u, .forMove) →
        server2Move buffer = some move → (first i).anyBroken = false → CountsAgree t u move
  | _ => True

def RunsAgree (first second : MallocContents) (events : List ClientEvent) : Prop :=
  Agree (process first) (process second) ReadsAgree (some (server2New first))
    (some (server2New second)) events

/-! ## Rooms that differ in contents only -/

/-- The same board and player to move, whatever the count. -/
def GamesAlike (first second : TicTacToe × Waits) : Prop :=
  first.1.board = second.1.board ∧ first.1.currentPlayer = second.1.currentPlayer ∧
    first.2 = second.2

structure RoomsAlike (first second : Room) : Prop where
  player1 : first.state.player1Socket = second.state.player1Socket
  player2 : first.state.player2Socket = second.state.player2Socket
  count : first.state.numActivePlayers = second.state.numActivePlayers
  broken : first.broken = second.broken
  games : Option.Rel GamesAlike first.game second.game

def Alike (first second : Server) : Prop := ∀ i, RoomsAlike (first i) (second i)

section Alike

variable {first second : Room} {t u : TicTacToe}

theorem RoomsAlike.games_cases (alike : RoomsAlike first second) :
    first.game = none ∧ second.game = none ∨
    ∃ t u waits, first.game = some (t, waits) ∧ second.game = some (u, waits) ∧
      t.board = u.board ∧ t.currentPlayer = u.currentPlayer := by
  have games := alike.games
  generalize first.game = game, second.game = other at games ⊢
  cases games with
  | none => exact Or.inl ⟨rfl, rfl⟩
  | some same =>
      obtain ⟨board, player, waits⟩ := same
      exact Or.inr ⟨_, _, _, rfl, congrArg some (Prod.ext rfl waits.symm), board, player⟩

theorem RoomsAlike.socket (alike : RoomsAlike first second) (seat : Player) :
    first.state.socket seat = second.state.socket seat := by
  cases seat
  · exact alike.player1
  · exact alike.player2

theorem RoomsAlike.anyBroken (alike : RoomsAlike first second) :
    first.anyBroken = second.anyBroken := by
  rw [Room.anyBroken, Room.anyBroken, alike.broken]

theorem RoomsAlike.sends (alike : RoomsAlike first second) (messages : List (Player × Text)) :
    first.sends messages = second.sends messages := by
  induction messages with
  | nil => rfl
  | cons message rest inductionHypothesis =>
      rw [Room.sends, Room.sends, inductionHypothesis, alike.broken, alike.socket]

theorem RoomsAlike.seated (alike : RoomsAlike first second) (clientSocket : Nat) :
    RoomsAlike
      { first with
        state := { first.state with
          player2Socket := clientSocket
          numActivePlayers := 2
          gameRunning := true }
        broken := Function.update first.broken .o false }
      { second with
        state := { second.state with
          player2Socket := clientSocket
          numActivePlayers := 2
          gameRunning := true }
        broken := Function.update second.broken .o false } where
  player1 := alike.player1
  player2 := rfl
  count := rfl
  broken := by rw [alike.broken]
  games := alike.games

theorem tttCheckWin_congr (board : t.board = u.board) (player : Player) :
    tttCheckWin t player = tttCheckWin u player := by
  rw [tttCheckWin, tttCheckWin, board]

theorem won_congr (board : t.board = u.board) : won t = won u := by
  rw [won, won, tttCheckWin_congr board, tttCheckWin_congr board]

theorem decided_eq (t : TicTacToe) : decided t = (won t || tttIsDraw t) := rfl

theorem turnMessages_congr (player : t.currentPlayer = u.currentPlayer) :
    turnMessages t = turnMessages u := by
  rw [turnMessages, turnMessages, player]

theorem tttMakeMove_board (t : TicTacToe) (move : Int) :
    (tttMakeMove t move).2.board = boardBehind t move := by
  by_cases legal : IsLegal t move
  · rw [tttMakeMove_of_legal legal.1 legal.2, boardBehind, if_pos legal]
    rfl
  · rw [tttMakeMove_of_illegal legal, boardBehind, if_neg legal]

theorem tttMakeMove_turnCount (t : TicTacToe) (move : Int) :
    (tttMakeMove t move).2.turnCount = countBehind t move := by
  by_cases legal : IsLegal t move
  · rw [tttMakeMove_of_legal legal.1 legal.2, countBehind, if_pos legal]
    rfl
  · rw [tttMakeMove_of_illegal legal, countBehind, if_neg legal]

theorem tttMakeMove_congr (board : t.board = u.board)
    (player : t.currentPlayer = u.currentPlayer) (move : Int) :
    (tttMakeMove t move).2.board = (tttMakeMove u move).2.board ∧
      (tttMakeMove t move).2.currentPlayer = (tttMakeMove u move).2.currentPlayer := by
  have sameLegal : IsLegal t move ↔ IsLegal u move := by
    rw [IsLegal, IsLegal, board]
  by_cases legal : IsLegal t move
  · have alsoLegal := sameLegal.mp legal
    rw [tttMakeMove_of_legal legal.1 legal.2, tttMakeMove_of_legal alsoLegal.1 alsoLegal.2]
    simp only [tttSwitchPlayer, board, player, and_self]
  · rw [tttMakeMove_of_illegal legal, tttMakeMove_of_illegal (mt sameLegal.mpr legal)]
    exact ⟨board, player⟩

theorem tttIsDraw_of_not_won (notWon : won t = false) :
    tttIsDraw t = decide (t.turnCount = 9) := by
  rw [won, Bool.or_eq_false_iff] at notWon
  have noWinner : tttHasWinner t = false := by
    rw [tttHasWinner]
    cases t.currentPlayer
    · exact notWon.1
    · exact notWon.2
  rw [tttIsDraw, noWinner, Bool.not_false, Bool.and_true]

/-- The test for a draw behind a move reads the count alone. -/
theorem countsAgree_iff (board : t.board = u.board)
    (player : t.currentPlayer = u.currentPlayer) (move : Int) :
    CountsAgree t u move ↔
      (won (tttMakeMove t move).2 = false →
        tttIsDraw (tttMakeMove t move).2 = tttIsDraw (tttMakeMove u move).2) := by
  have sameWon : won (tttMakeMove t move).2 = won { t with board := boardBehind t move } :=
    won_congr (tttMakeMove_board t move)
  have alsoWon : won (tttMakeMove t move).2 = won (tttMakeMove u move).2 :=
    won_congr (tttMakeMove_congr board player move).1
  rw [CountsAgree, ← sameWon]
  refine imp_congr_right fun notWon => ?_
  rw [tttIsDraw_of_not_won notWon, tttIsDraw_of_not_won (alsoWon ▸ notWon),
    tttMakeMove_turnCount, tttMakeMove_turnCount, decide_eq_decide]

end Alike

/-! ## What one event shows -/

section Visible

variable {room : Room}

theorem sends_of_unbroken (unbroken : room.anyBroken = false)
    (messages : List (Player × Text)) :
    room.sends messages = messages.map fun message =>
      .sends (room.state.socket message.1) (gameState message.2) := by
  rw [Room.anyBroken, Bool.or_eq_false_iff] at unbroken
  have whole : ∀ seat, room.broken seat = false := fun seat => by
    cases seat
    · exact unbroken.1
    · exact unbroken.2
  induction messages with
  | nil => rfl
  | cons message rest inductionHypothesis =>
      rw [Room.sends, whole, if_neg Bool.false_ne_true, inductionHypothesis, List.map_cons]

theorem sends_of_broken (broken : room.anyBroken = true) (player : Player) (buffer : Text)
    (messages : List (Player × Text)) :
    room.sends ((player.other, buffer) :: (player, buffer) :: messages) =
      room.sends [(player.other, buffer), (player, buffer)] := by
  by_cases first : room.broken player.other = true
  · rw [Room.sends, if_pos first, Room.sends, if_pos first]
  · have last : room.broken player = true := by
      rw [Room.anyBroken, Bool.or_eq_true] at broken
      cases player
      · exact broken.resolve_right first
      · exact broken.resolve_left first
    rw [Room.sends, if_neg first, Room.sends, if_pos last, Room.sends, if_neg first,
      Room.sends, if_pos last]

theorem sends_draw_ne_turn (unbroken : room.anyBroken = false) (t : TicTacToe) :
    room.sends [(.x, drawWord), (.o, drawWord)] ≠ room.sends (turnMessages t) := by
  rw [sends_of_unbroken unbroken, sends_of_unbroken unbroken, turnMessages]
  intro same
  have messages : gameState drawWord = gameState turnWord :=
    (Output.sends.inj (List.cons_eq_cons.mp same).1).2
  exact absurd messages (by decide)

theorem verdictMessages_of_won {t : TicTacToe} (notWon : won t = false) :
    verdictMessages t =
      if tttIsDraw t then [(.x, drawWord), (.o, drawWord)] else turnMessages t := by
  rw [won, Bool.or_eq_false_iff] at notWon
  rw [verdictMessages, if_neg (by simp [notWon.1]), if_neg (by simp [notWon.2])]

theorem sends_verdictMessages_iff {t u : TicTacToe} (board : t.board = u.board)
    (player : t.currentPlayer = u.currentPlayer) (unbroken : room.anyBroken = false) :
    room.sends (verdictMessages t) = room.sends (verdictMessages u) ↔
      (won t = false → tttIsDraw t = tttIsDraw u) := by
  cases wins : won t with
  | true =>
      have same : verdictMessages t = verdictMessages u := by
        rw [won, Bool.or_eq_true] at wins
        rw [verdictMessages, verdictMessages, ← tttCheckWin_congr board .x,
          ← tttCheckWin_congr board .o]
        by_cases winsX : tttCheckWin t .x = true
        · rw [if_pos winsX, if_pos winsX]
        · have winsO : tttCheckWin t .o = true := wins.resolve_left winsX
          rw [if_neg winsX, if_neg winsX, if_pos winsO, if_pos winsO]
      rw [same]
      simp
  | false =>
      have alsoNot : won u = false := (won_congr board).symm.trans wins
      have differs := sends_draw_ne_turn unbroken u
      rw [verdictMessages_of_won wins, verdictMessages_of_won alsoNot,
        turnMessages_congr player]
      cases tttIsDraw t <;> cases tttIsDraw u <;> simp [differs, differs.symm]

theorem sends_moveMessages_iff {t u : TicTacToe} {buffer : Text} {move : Int}
    (board : t.board = u.board) (player : t.currentPlayer = u.currentPlayer)
    (reads : server2Move buffer = some move) :
    room.sends (moveMessages t buffer) = room.sends (moveMessages u buffer) ↔
      (room.anyBroken = false → CountsAgree t u move) := by
  have moved := tttMakeMove_congr board player move
  rw [countsAgree_iff board player]
  simp only [moveMessages, reads, player]
  cases broken : room.anyBroken with
  | true =>
      have cut := sends_of_broken broken u.currentPlayer buffer
      rw [cut (verdictMessages (tttMakeMove t move).2),
        cut (verdictMessages (tttMakeMove u move).2)]
      simp
  | false =>
      have verdicts := sends_verdictMessages_iff moved.1 moved.2 broken
      rw [sends_of_unbroken broken, sends_of_unbroken broken] at verdicts
      rw [sends_of_unbroken broken, sends_of_unbroken broken, List.map_cons, List.map_cons,
        List.map_cons, List.map_cons, List.cons_eq_cons, List.cons_eq_cons, verdicts]
      simp

theorem receiveOutputs_eq_iff {first second : Room} (alike : RoomsAlike first second)
    (buffer : Text) :
    first.receiveOutputs buffer = second.receiveOutputs buffer ↔
      ∀ t u move, first.game = some (t, .forMove) → second.game = some (u, .forMove) →
        server2Move buffer = some move → first.anyBroken = false → CountsAgree t u move := by
  rw [Room.receiveOutputs, Room.receiveOutputs]
  obtain ⟨none, alsoNone⟩ | ⟨t, u, waits, playing, alsoPlaying, board, player⟩ :=
    alike.games_cases
  · simp [none, alsoNone]
  · rw [playing, alsoPlaying]
    cases waits with
    | forAck => simp
    | forMove =>
        dsimp only
        rw [← alike.sends]
        cases reads : server2Move buffer with
        | none => simp [moveMessages, reads, turnMessages_congr player]
        | some move =>
            rw [sends_moveMessages_iff board player reads]
            simp

theorem joinOutputs_eq_iff {first second : Room} (alike : RoomsAlike first second)
    (clientSocket : Nat) :
    first.joinOutputs clientSocket = second.joinOutputs clientSocket ↔
      (first.state.numActivePlayers = 1 →
        first.state.gameRunning = second.state.gameRunning) := by
  rw [Room.joinOutputs, Room.joinOutputs, server2JoinRoom, server2JoinRoom, ← alike.count]
  by_cases empty : first.state.numActivePlayers = 0
  · simp [empty]
  · rw [if_neg empty, if_neg empty]
    by_cases one : first.state.numActivePlayers = 1
    · rw [if_pos one, if_pos one]
      cases running : first.state.gameRunning <;> cases other : second.state.gameRunning
      · have seated := alike.seated clientSocket
        simp [seated.sends]
      · simp [one]
      · simp [one]
      · simp
    · simp [one]

end Visible

/-! ## What one event leaves behind -/

section Next

variable {first second : Room}

/-- The room of a thread that waits again. -/
def Outcome.room? : Outcome → Option Room
  | .waits room => some room
  | _ => none

theorem after_eq_map (server : Server) (i : Fin 5) (outcome : Outcome) :
    server.after i outcome = outcome.room?.map (server.set i) := by
  cases outcome <;> rfl

theorem Alike.set {left right : Server} (alike : Alike left right) (i : Fin 5)
    (rooms : RoomsAlike first second) : Alike (left.set i first) (right.set i second) := by
  intro j
  by_cases same : i = j
  · subst same
    rw [Server.set, Server.set, Function.update_self, Function.update_self]
    exact rooms
  · rw [set_other same, set_other same]
    exact alike j

theorem Alike.after {left right : Server} (alike : Alike left right) (i : Fin 5)
    {outcome other : Outcome} (rooms : Option.Rel RoomsAlike outcome.room? other.room?) :
    Option.Rel Alike (left.after i outcome) (right.after i other) := by
  rw [after_eq_map, after_eq_map]
  generalize outcome.room? = room, other.room? = otherRoom at rooms
  cases rooms with
  | none => exact .none
  | some same => exact .some (alike.set i same)

theorem sendAll_noBreaks (room : Room) (messages : List (Player × Text)) :
    room.sendAll noBreaks messages =
      if messages.any fun message => room.broken message.1 then none else some room := by
  have same : room.loses (noBreaks 0) = room := by
    rw [Room.loses]
    simp [noBreaks]
  induction messages with
  | nil => rfl
  | cons message rest inductionHypothesis =>
      obtain ⟨seat, cmd⟩ := message
      have later : noBreaks.after 1 = noBreaks := rfl
      rw [Room.sendAll, same, later, inductionHypothesis, List.any_cons]
      cases room.broken seat <;> rfl

theorem sendAll_both (room : Room) (player : Player) (first last : Text) :
    room.sendAll noBreaks [(player, first), (player.other, last)] =
      if room.anyBroken then none else some room := by
  rw [sendAll_noBreaks, Room.anyBroken]
  cases player
  · simp [Player.other]
  · simp [Player.other, Bool.or_comm]

theorem announce_noBreaks (room : Room) (t : TicTacToe) :
    room.announce noBreaks t =
      if room.anyBroken then .dies else .waits { room with game := some (t, .forAck) } := by
  rw [Room.announce, turnMessages, sendAll_both]
  cases room.anyBroken <;> rfl

theorem plays_noBreaks (room : Room) (t : TicTacToe) (buffer : Text) (move : Int) :
    (room.plays noBreaks t buffer move).room? =
      if room.anyBroken ∨ decided (tttMakeMove t move).2 then none
      else some { room with game := some ((tttMakeMove t move).2, .forAck) } := by
  have later : noBreaks.after 2 = noBreaks := rfl
  have relayed := sendAll_both room t.currentPlayer.other buffer buffer
  rw [show t.currentPlayer.other.other = t.currentPlayer by cases t.currentPlayer <;> rfl]
    at relayed
  rw [Room.plays, relayed, later]
  cases broken : room.anyBroken with
  | true => rfl
  | false =>
      cases decided (tttMakeMove t move).2 with
      | true =>
          simp only [Bool.false_eq_true, if_false, if_true, or_true]
          cases room.sendAll noBreaks (verdictMessages (tttMakeMove t move).2) <;> rfl
      | false => simp [announce_noBreaks, broken, Outcome.room?]

theorem RoomsAlike.announce (alike : RoomsAlike first second) {t u : TicTacToe}
    (board : t.board = u.board) (player : t.currentPlayer = u.currentPlayer) :
    Option.Rel RoomsAlike (first.announce noBreaks t).room?
      (second.announce noBreaks u).room? := by
  rw [announce_noBreaks, announce_noBreaks, ← alike.anyBroken]
  split
  · exact .none
  · exact .some { alike with games := .some ⟨board, player, rfl⟩ }

theorem RoomsAlike.plays (alike : RoomsAlike first second) {t u : TicTacToe}
    (board : t.board = u.board) (player : t.currentPlayer = u.currentPlayer) (buffer : Text)
    (move : Int)
    (draws : first.anyBroken = false → won (tttMakeMove t move).2 = false →
      tttIsDraw (tttMakeMove t move).2 = tttIsDraw (tttMakeMove u move).2) :
    Option.Rel RoomsAlike (first.plays noBreaks t buffer move).room?
      (second.plays noBreaks u buffer move).room? := by
  have moved := tttMakeMove_congr board player move
  rw [plays_noBreaks, plays_noBreaks, ← alike.anyBroken]
  cases broken : first.anyBroken with
  | true => exact .none
  | false =>
      have sameVerdict : decided (tttMakeMove t move).2 = decided (tttMakeMove u move).2 := by
        rw [decided_eq, decided_eq, ← won_congr moved.1]
        cases wins : won (tttMakeMove t move).2
        · rw [draws broken wins]
        · rfl
      rw [← sameVerdict]
      split
      · exact .none
      · exact .some { alike with games := .some ⟨moved.1, moved.2, rfl⟩ }

theorem RoomsAlike.receives (alike : RoomsAlike first second) (buffer : Text)
    (counts : ∀ t u move, first.game = some (t, .forMove) → second.game = some (u, .forMove) →
      server2Move buffer = some move → first.anyBroken = false → CountsAgree t u move) :
    Option.Rel RoomsAlike (first.receives buffer noBreaks).room?
      (second.receives buffer noBreaks).room? := by
  rw [Room.receives, Room.receives]
  obtain ⟨none, alsoNone⟩ | ⟨t, u, waits, playing, alsoPlaying, board, player⟩ :=
    alike.games_cases
  · rw [none, alsoNone]
    exact .some alike
  · rw [playing, alsoPlaying]
    cases waits with
    | forAck => exact .some { alike with games := .some ⟨board, player, rfl⟩ }
    | forMove =>
        cases reads : server2Move buffer with
        | none => exact alike.announce board player
        | some move =>
            refine alike.plays board player buffer move fun unbroken => ?_
            exact (countsAgree_iff board player move).mp
              (counts t u move playing alsoPlaying reads unbroken)

theorem RoomsAlike.recvFails (alike : RoomsAlike first second) :
    Option.Rel RoomsAlike first.recvFails.room? second.recvFails.room? := by
  rw [Room.recvFails, Room.recvFails]
  obtain ⟨none, alsoNone⟩ | ⟨t, u, waits, playing, alsoPlaying, board, player⟩ :=
    alike.games_cases
  · rw [none, alsoNone]
    exact .some alike
  · rw [playing, alsoPlaying]
    cases waits with
    | forAck => exact .some { alike with games := .some ⟨board, player, rfl⟩ }
    | forMove => exact .none

theorem RoomsAlike.joins (alike : RoomsAlike first second) (clientSocket : Nat)
    (turnCount otherCount : Int)
    (running : first.state.numActivePlayers = 1 →
      first.state.gameRunning = second.state.gameRunning) :
    Option.Rel RoomsAlike (first.joins clientSocket turnCount noBreaks).room?
      (second.joins clientSocket otherCount noBreaks).room? := by
  rw [Room.joins, Room.joins, server2JoinRoom, server2JoinRoom, ← alike.count]
  by_cases empty : first.state.numActivePlayers = 0
  · rw [if_pos empty, if_pos empty]
    exact .some {
      player1 := rfl
      player2 := alike.player2
      count := rfl
      broken := by rw [alike.broken]
      games := alike.games }
  · rw [if_neg empty, if_neg empty]
    by_cases one : first.state.numActivePlayers = 1
    · rw [if_pos one, if_pos one, ← running one]
      cases first.state.gameRunning
      · exact (alike.seated clientSocket).announce rfl rfl
      · exact .some {
          player1 := alike.player1
          player2 := rfl
          count := rfl
          broken := alike.broken
          games := alike.games }
    · rw [if_neg one, if_neg one]
      exact .some alike

end Next

/-! ## Two runs -/

theorem alike_server2New (first second : MallocContents) :
    Alike (server2New first) (server2New second) := fun _ =>
  { player1 := rfl, player2 := rfl, count := rfl, broken := rfl, games := .none }

theorem outputs_eq_iff (first second : MallocContents) {left right : Server}
    (alike : Alike left right) (event : ClientEvent) :
    left.outputs (event.on first) = right.outputs (event.on second) ↔
      ReadsAgree left right event := by
  cases event with
  | breaks i seat => exact iff_of_true rfl trivial
  | firstMessageFails => exact iff_of_true rfl trivial
  | recvFails i => exact iff_of_true rfl trivial
  | receives i buffer => exact receiveOutputs_eq_iff (alike i) buffer
  | firstMessage clientSocket buffer =>
      simp only [ClientEvent.on, Server.outputs, ReadsAgree]
      cases joinedRoom buffer with
      | none => simp
      | some i => simpa using joinOutputs_eq_iff (alike i) clientSocket

theorem step_alike (first second : MallocContents) {left right : Server}
    (alike : Alike left right) (event : ClientEvent) (agrees : ReadsAgree left right event) :
    Option.Rel Alike (left.step (event.on first)) (right.step (event.on second)) := by
  cases event with
  | breaks i seat =>
      refine .some (alike.set i ?_)
      exact { alike i with broken := by rw [(alike i).broken] }
  | firstMessageFails => exact .none
  | recvFails i => exact alike.after i (alike i).recvFails
  | receives i buffer => exact alike.after i ((alike i).receives buffer agrees)
  | firstMessage clientSocket buffer =>
      simp only [ClientEvent.on, Server.step]
      simp only [ReadsAgree] at agrees
      cases asked : joinedRoom buffer with
      | none => exact .some alike
      | some i =>
          exact alike.after i ((alike i).joins clientSocket _ _ (agrees i asked))

/-- The two runs show every client the same exactly if both reads agree all along. -/
theorem behaviour_eq_iff (first second : MallocContents) (events : List ClientEvent) :
    behaviour first events = behaviour second events ↔ RunsAgree first second events := by
  have unwinds : Unwinds (process first) (process second) Alike ReadsAgree :=
    { visible := fun _ _ event alike => outputs_eq_iff first second alike event
      next := fun _ _ event alike agrees => step_alike first second alike event agrees }
  exact unwinds.observe_eq_iff [] events (.some (alike_server2New first second))

/-- Of all that the blocks hold, the server reads these two fields alone. -/
theorem behaviour_of_same_fields {first second : MallocContents}
    (running : ∀ i, (first.gameRoom i).gameRunning = (second.gameRoom i).gameRunning)
    (count : ∀ i, (first.ticTacToe i).turnCount = (second.ticTacToe i).turnCount)
    (events : List ClientEvent) : behaviour first events = behaviour second events := by
  have rooms : server2New first = server2New second := by
    funext i
    simp only [server2New, running i]
  have machines : process first = process second := by
    have same : ∀ event : ClientEvent, event.on first = event.on second := by
      intro event
      cases event <;> simp only [ClientEvent.on, newGame, count]
    simp only [process, same]
  rw [behaviour, behaviour, rooms, machines]

/-! ## Two blocks -/

def contentsWith (gameRunning : Bool) (turnCount : Int) : MallocContents where
  gameRoom _ := ⟨0, 0, 0, gameRunning⟩
  ticTacToe _ := { tttNew with turnCount := turnCount }

def twoJoins : List ClientEvent := [.firstMessage 4 joinZero, .firstMessage 5 joinZero]

/-- The second player is let in or turned away by what `malloc` returned. -/
theorem twoJoins_depend_on_malloc :
    ¬ ∀ (first second : MallocContents) (events : List ClientEvent),
      behaviour first events = behaviour second events := by
  intro always
  exact absurd (always (contentsWith false 0) (contentsWith true 0) twoJoins)
    (by decide +kernel)

/-- A first move to the centre is a draw where the count starts at 8. -/
example : behaviour (contentsWith false 0)
      (twoJoins ++ [.receives 0 ackWord, .receives 0 [77, 65, 82, 75, 32, 53]]) ≠
    behaviour (contentsWith false 8)
      (twoJoins ++ [.receives 0 ackWord, .receives 0 [77, 65, 82, 75, 32, 53]]) := by
  decide +kernel

end Cmput313.Ttt.Part2
