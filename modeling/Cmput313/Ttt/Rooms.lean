import Cmput313.Lib.Machine
import Cmput313.Ttt.Board

/-!
# Joining a room

`GameRoom` of `server-p2.c`, the three sections under its mutex, and the threads of the
clients that ask to join it.  A seat that has been given is kept until the game ends, as
long as a thread that has seen the room empty finds it empty when it creates the room.
-/

set_option autoImplicit false

namespace Cmput313.Ttt.Part2

open Cmput313.Machine

/-! ## The room -/

/-- What the mutex guards.  A seat without a client has the socket -1. -/
structure GameRoom where
  player1Socket : Int
  player2Socket : Int
  numActivePlayers : Int
  gameRunning : Bool
  deriving DecidableEq

/-- A room of `server2_new`, which leaves `gameRunning` as `malloc` has returned it. -/
def newRoom (gameRunning : Bool) : GameRoom where
  player1Socket := -1
  player2Socket := -1
  numActivePlayers := 0
  gameRunning := gameRunning

def server2CreateRoom (room : GameRoom) (clientSocket : Int) : GameRoom :=
  { room with player1Socket := clientSocket, numActivePlayers := 1 }

/-- What comes of the section of `server2_joinRoom`: `server2_createRoom` is called next,
the game starts, the seat is taken but a game is said to run, or the room is full. -/
inductive Joining where
  | creates
  | plays (room : GameRoom)
  | blocked (room : GameRoom)
  | full
  deriving DecidableEq

def server2JoinRoom (room : GameRoom) (clientSocket : Int) : Joining :=
  if room.numActivePlayers = 0 then .creates
  else if room.numActivePlayers = 1 then
    let room := { room with player2Socket := clientSocket, numActivePlayers := 2 }
    if !room.gameRunning then .plays { room with gameRunning := true }
    else .blocked room
  else .full

theorem server2JoinRoom_cases (room : GameRoom) (clientSocket : Int) :
    server2JoinRoom room clientSocket = .creates ∧ room.numActivePlayers = 0 ∨
    room.numActivePlayers = 1 ∧ room.gameRunning = false ∧
      server2JoinRoom room clientSocket = .plays { room with
        player2Socket := clientSocket
        numActivePlayers := 2
        gameRunning := true } ∨
    room.numActivePlayers = 1 ∧ room.gameRunning = true ∧
      server2JoinRoom room clientSocket = .blocked { room with
        player2Socket := clientSocket
        numActivePlayers := 2 } ∨
    server2JoinRoom room clientSocket = .full ∧ room.numActivePlayers ≠ 1 := by
  unfold server2JoinRoom
  by_cases empty : room.numActivePlayers = 0
  · exact Or.inl ⟨if_pos empty, empty⟩
  · rw [if_neg empty]
    by_cases one : room.numActivePlayers = 1
    · rw [if_pos one]
      cases running : room.gameRunning
      · exact Or.inr (Or.inl ⟨one, rfl, rfl⟩)
      · exact Or.inr (Or.inr (Or.inl ⟨one, rfl, rfl⟩))
    · exact Or.inr (Or.inr (Or.inr ⟨if_neg one, one⟩))

def GameRoom.cleanUp (room : GameRoom) : GameRoom :=
  { room with
    gameRunning := false
    player1Socket := -1
    player2Socket := -1
    numActivePlayers := 0 }

def GameRoom.socket (room : GameRoom) : Player → Int
  | .x => room.player1Socket
  | .o => room.player2Socket

def GameRoom.occupied (room : GameRoom) : Int :=
  (if room.player1Socket = -1 then 0 else 1) + (if room.player2Socket = -1 then 0 else 1)

/-! ## The threads -/

/-- Where the thread of a client is: in front of a section, in the game, or done. -/
inductive Thread where
  | joining
  | creating
  | playing
  | returned
  deriving DecidableEq

/-- A room, the threads of all its clients, and the clients that have been given a seat
since the last game, in order. -/
structure Lobby (κ : Type) where
  room : GameRoom
  thread : κ → Thread
  accepted : List (Player × κ)

inductive Section (κ : Type) where
  | joins (client : κ)
  | creates (client : κ)
  | cleansUp (client : κ)

variable {κ : Type}

def Lobby.moves [DecidableEq κ] (lobby : Lobby κ) (client : κ) (thread : Thread) :
    Lobby κ :=
  { lobby with thread := Function.update lobby.thread client thread }

def Lobby.gives (lobby : Lobby κ) (seat : Player) (client : κ) (room : GameRoom) : Lobby κ :=
  { lobby with room := room, accepted := lobby.accepted ++ [(seat, client)] }

def Lobby.step [DecidableEq κ] (socket : κ → Nat) (lobby : Lobby κ) :
    Section κ → Option (Lobby κ)
  | .joins client =>
      if lobby.thread client = .joining then
        match server2JoinRoom lobby.room (socket client) with
        | .creates => some (lobby.moves client .creating)
        | .plays room => some ((lobby.gives .o client room).moves client .playing)
        | .blocked room => some ((lobby.gives .o client room).moves client .returned)
        | .full => some (lobby.moves client .returned)
      else none
  | .creates client =>
      if lobby.thread client = .creating then
        let room := server2CreateRoom lobby.room (socket client)
        some ((lobby.gives .x client room).moves client .returned)
      else none
  | .cleansUp client =>
      if lobby.thread client = .playing then
        some ({ lobby with room := lobby.room.cleanUp, accepted := [] }.moves client .returned)
      else none

def Lobby.start (gameRunning : Bool) : Lobby κ where
  room := newRoom gameRunning
  thread := fun _ => .joining
  accepted := []

/-! ## Seats are kept -/

/-- No seat has been given twice since the last game, who has been given one has it, and
the count of players is that of the occupied seats. -/
structure Seated (socket : κ → Nat) (lobby : Lobby κ) : Prop where
  once : (lobby.accepted.map Prod.fst).Nodup
  kept : ∀ seat client, (seat, client) ∈ lobby.accepted →
    lobby.room.socket seat = socket client
  counted : lobby.room.numActivePlayers = lobby.room.occupied

def StillEmpty (lobby : Lobby κ) : Section κ → Prop
  | .creates _ => lobby.room.numActivePlayers = 0
  | _ => True

instance (lobby : Lobby κ) (which : Section κ) : Decidable (StillEmpty lobby which) :=
  match which with
  | .creates _ => inferInstanceAs (Decidable (_ = _))
  | .joins _ => isTrue trivial
  | .cleansUp _ => isTrue trivial

inductive Seats (socket : κ → Nat) : GameRoom → List (Player × κ) → Prop
  | none {room : GameRoom} (first : room.player1Socket = -1) (second : room.player2Socket = -1)
      (count : room.numActivePlayers = 0) : Seats socket room []
  | one {room : GameRoom} (client : κ) (first : room.player1Socket = socket client)
      (second : room.player2Socket = -1) (count : room.numActivePlayers = 1) :
      Seats socket room [(.x, client)]
  | two {room : GameRoom} (client other : κ) (first : room.player1Socket = socket client)
      (second : room.player2Socket = socket other) (count : room.numActivePlayers = 2) :
      Seats socket room [(.x, client), (.o, other)]

variable {socket : κ → Nat} {lobby : Lobby κ}

theorem socket_ne_free (client : κ) : (socket client : Int) ≠ -1 := by omega

theorem Seats.seated (seats : Seats socket lobby.room lobby.accepted) : Seated socket lobby := by
  generalize accepted : lobby.accepted = given at seats
  cases seats with
  | none first second count =>
      refine ⟨?_, ?_, ?_⟩
      · rw [accepted]
        exact List.nodup_nil
      · intro seat client member
        rw [accepted] at member
        exact absurd member List.not_mem_nil
      · rw [count, GameRoom.occupied, first, second]
        rfl
  | one client first second count =>
      refine ⟨?_, ?_, ?_⟩
      · rw [accepted]
        exact List.nodup_singleton _
      · intro seat other member
        rw [accepted] at member
        obtain ⟨rfl, rfl⟩ := Prod.mk.inj (List.mem_singleton.mp member)
        exact first
      · rw [count, GameRoom.occupied, first, second, if_neg (socket_ne_free client)]
        rfl
  | two client other first second count =>
      refine ⟨?_, ?_, ?_⟩
      · rw [accepted]
        change [Player.x, Player.o].Nodup
        decide
      · intro seat who member
        rw [accepted] at member
        rcases List.mem_cons.mp member with same | later
        · obtain ⟨rfl, rfl⟩ := Prod.mk.inj same
          exact first
        · obtain ⟨rfl, rfl⟩ := Prod.mk.inj (List.mem_singleton.mp later)
          exact second
      · rw [count, GameRoom.occupied, first, second, if_neg (socket_ne_free client),
          if_neg (socket_ne_free other)]
        rfl

/-! ## One section -/

theorem Seats.joins {client : κ} {given : List (Player × κ)} {room : GameRoom}
    (seats : Seats socket room given) (one : room.numActivePlayers = 1) {next : GameRoom}
    (first : next.player1Socket = room.player1Socket) (second : next.player2Socket = socket client)
    (count : next.numActivePlayers = 2) : Seats socket next (given ++ [(.o, client)]) := by
  cases seats with
  | none _ _ players => rw [players] at one; cases one
  | one sitting sits _ _ => exact .two sitting client (first.trans sits) second count
  | two _ _ _ _ players => rw [players] at one; cases one

theorem Seats.creates {client : κ} {given : List (Player × κ)} {room : GameRoom}
    (seats : Seats socket room given) (empty : room.numActivePlayers = 0) :
    Seats socket (server2CreateRoom room (socket client)) (given ++ [(.x, client)]) := by
  cases seats with
  | none _ second _ => exact .one client rfl second rfl
  | one _ _ _ count => rw [count] at empty; cases empty
  | two _ _ _ _ count => rw [count] at empty; cases empty

/-- A room that is created although it has players has its first seat given twice. -/
theorem Seats.not_once {client : κ} {given : List (Player × κ)} {room : GameRoom}
    (seats : Seats socket room given) (players : room.numActivePlayers ≠ 0) :
    ¬ ((given ++ [(Player.x, client)]).map Prod.fst).Nodup := by
  cases seats with
  | none _ _ count => exact absurd count players
  | one first _ _ _ =>
      change ¬ [Player.x, Player.x].Nodup
      decide
  | two first second _ _ _ =>
      change ¬ [Player.x, Player.o, Player.x].Nodup
      decide

theorem step_preserves_seats [DecidableEq κ] {next : Lobby κ} {which : Section κ}
    (seats : Seats socket lobby.room lobby.accepted) (empty : StillEmpty lobby which)
    (taken : lobby.step socket which = some next) :
    Seats socket next.room next.accepted := by
  cases which with
  | joins client =>
      simp only [Lobby.step] at taken
      split at taken
      · rcases server2JoinRoom_cases lobby.room (socket client) with
          ⟨creates, _⟩ | ⟨one, _, plays⟩ | ⟨one, _, blocked⟩ | ⟨full, _⟩
        · rw [creates] at taken
          obtain rfl := Option.some.inj taken
          exact seats
        · rw [plays] at taken
          obtain rfl := Option.some.inj taken
          exact seats.joins one rfl rfl rfl
        · rw [blocked] at taken
          obtain rfl := Option.some.inj taken
          exact seats.joins one rfl rfl rfl
        · rw [full] at taken
          obtain rfl := Option.some.inj taken
          exact seats
      · cases taken
  | creates client =>
      simp only [Lobby.step] at taken
      split at taken
      · obtain rfl := Option.some.inj taken
        exact seats.creates empty
      · cases taken
  | cleansUp client =>
      simp only [Lobby.step] at taken
      split at taken
      · obtain rfl := Option.some.inj taken
        exact .none rfl rfl rfl
      · cases taken

/-- In every run in which each room that is created is still empty, for any number of
threads in any order, seats are kept and counted. -/
theorem run_seated [DecidableEq κ] {gameRunning : Bool} {sections : List (Section κ)}
    {final : Lobby κ}
    (empty : Meets (Lobby.step socket) StillEmpty (Lobby.start gameRunning) sections)
    (reached : run (Lobby.step socket) (Lobby.start gameRunning) sections = some final) :
    Seated socket final := by
  have preserved : ∀ lobby which next, Seats socket lobby.room lobby.accepted →
      StillEmpty lobby which → lobby.step socket which = some next →
      Seats socket next.room next.accepted :=
    fun _ _ _ seats stillEmpty taken => step_preserves_seats seats stillEmpty taken
  have first : Seats socket (newRoom gameRunning) [] := .none rfl rfl rfl
  exact (run_preserves preserved first empty reached).seated

/-- A section that creates a room that is not empty any more breaks it: the condition
leaves out nothing else. -/
theorem not_seated_of_creates [DecidableEq κ] {next : Lobby κ} {client : κ}
    (seats : Seats socket lobby.room lobby.accepted)
    (players : lobby.room.numActivePlayers ≠ 0)
    (taken : lobby.step socket (.creates client) = some next) : ¬ Seated socket next := by
  simp only [Lobby.step] at taken
  split at taken
  · obtain rfl := Option.some.inj taken
    exact fun seated => seats.not_once players seated.once
  · cases taken

/-! ## Two clients -/

def afterSections (sections : List (Section Bool)) : Lobby Bool :=
  runEnd (Lobby.step Bool.toNat) (Lobby.start false) sections

def oneAfterOther : List (Section Bool) := [.joins false, .creates false, .joins true]

theorem oneAfterOther_seated : Seated Bool.toNat (afterSections oneAfterOther) :=
  run_seated (by decide) (run_eq_runEnd (by decide))

/-- Both find the room empty before one of them creates it. -/
def bothCreate : List (Section Bool) :=
  [.joins false, .joins true, .creates false, .creates true]

theorem bothCreate_not_seated :
    run (Lobby.step Bool.toNat) (Lobby.start false) bothCreate = some (afterSections bothCreate) ∧
      ¬ Seated Bool.toNat (afterSections bothCreate) := by
  refine ⟨run_eq_runEnd (by decide), ?_⟩
  intro seated
  have once := seated.once
  exact absurd once (by decide)

end Cmput313.Ttt.Part2
