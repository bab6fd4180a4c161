import Cmput313.Ttt.Part2
import Cmput313.Ttt.Rooms

/-!
# Five rooms in one process

What a received message, a failed `recv` and a broken connection of one room do to the
server of part 2.  No room is touched by the events of another; but each way out of
`server2_runGame`, and a new client that fails, ends the process.
-/

set_option autoImplicit false

namespace Cmput313.Ttt.Part2

open Cmput313.CText Cmput313.Machine

/-! ## The server -/

inductive Waits where
  | forAck
  | forMove
  deriving DecidableEq

/-- A room with its game, none where `t` is `NULL`, and the seats whose connection is
broken: a `send` there raises `SIGPIPE`, for which the server has no handler. -/
structure Room where
  state : GameRoom
  game : Option (TicTacToe × Waits)
  broken : Player → Bool

abbrev Server := Fin 5 → Room

def Server.new (gameRunning : Fin 5 → Bool) : Server := fun i =>
  { state := newRoom (gameRunning i), game := none, broken := fun _ => false }

def Server.set (server : Server) (i : Fin 5) (room : Room) : Server :=
  Function.update server i room

def joinWord : Text := [74, 79, 73, 78, 32]

def joinedRoom (buffer : Text) : Option (Fin 5) :=
  if joinWord <+: cText buffer then
    let roomIndex := atoi ((cText buffer).drop 5)
    if roomIndex < 0 ∨ roomIndex ≥ 5 then none else some (Fin.ofNat 5 roomIndex.toNat)
  else none

/-! ## Messages to both seats -/

def turnMessages (t : TicTacToe) : List (Player × Text) :=
  [(t.currentPlayer, turnWord), (t.currentPlayer.other, waitWord)]

def verdictMessages (t : TicTacToe) : List (Player × Text) :=
  if tttCheckWin t .x then [(.x, winWord), (.o, loseWord)]
  else if tttCheckWin t .o then [(.x, loseWord), (.o, winWord)]
  else if tttIsDraw t then [(.x, drawWord), (.o, drawWord)]
  else turnMessages t

def moveMessages (t : TicTacToe) (buffer : Text) : List (Player × Text) :=
  match server2Move buffer with
  | some move => (t.currentPlayer.other, buffer) :: (t.currentPlayer, buffer) ::
      verdictMessages (tttMakeMove t move).2
  | none => turnMessages t

/-- The seats whose connection breaks in front of each `send` of a thread.  The first `send`
to a peer that has closed still succeeds: it breaks the connection for the next one. -/
abbrev Breaks := Nat → Player → Bool

def noBreaks : Breaks := fun _ _ => false

def Breaks.after (breaks : Breaks) (sent : Nat) : Breaks := fun n => breaks (sent + n)

def Room.loses (room : Room) (lost : Player → Bool) : Room :=
  { room with broken := fun seat => room.broken seat || lost seat }

/-- One `server2_sendGameState` after the other, while connections break: nothing comes
of it where one raises `SIGPIPE`. -/
def Room.sendAll (room : Room) (breaks : Breaks) : List (Player × Text) → Option Room
  | [] => some room
  | (seat, _) :: rest =>
      let room := room.loses (breaks 0)
      if room.broken seat then none else room.sendAll (breaks.after 1) rest

/-! ## Events

A step is `none` where the process ends. -/

inductive RoomEvent where
  | breaks (i : Fin 5) (seat : Player)
  | firstMessage (clientSocket : Nat) (buffer : Text) (turnCount : Int) (breaks : Breaks)
  | firstMessageFails
  | receives (i : Fin 5) (buffer : Text) (breaks : Breaks)
  | recvFails (i : Fin 5)

/-- What a thread comes to before its next `recv`: it waits there, it has left the loop
and cleaned up its room, or the process is gone. -/
inductive Outcome where
  | waits (room : Room)
  | ends (room : Room)
  | dies

def Room.announce (room : Room) (breaks : Breaks) (t : TicTacToe) : Outcome :=
  match room.sendAll breaks (turnMessages t) with
  | some room => .waits { room with game := some (t, .forAck) }
  | none => .dies

/-- Both clients are sent the command, and then the game is decided or the loop goes on. -/
def Room.plays (room : Room) (breaks : Breaks) (t : TicTacToe) (buffer : Text) (move : Int) :
    Outcome :=
  let moved := (tttMakeMove t move).2
  match room.sendAll breaks [(t.currentPlayer.other, buffer), (t.currentPlayer, buffer)] with
  | some room =>
      if decided moved then
        match room.sendAll (breaks.after 2) (verdictMessages moved) with
        | some room => .ends { room with state := room.state.cleanUp, game := none }
        | none => .dies
      else room.announce (breaks.after 2) moved
  | none => .dies

def Room.receives (room : Room) (buffer : Text) (breaks : Breaks) : Outcome :=
  match room.game with
  | none => .waits room
  | some (t, .forAck) => .waits { room with game := some (t, .forMove) }
  | some (t, .forMove) =>
      match server2Move buffer with
      | some move => room.plays breaks t buffer move
      | none => room.announce breaks t

/-- The first `recv` does not look at its result, the second one exits. -/
def Room.recvFails (room : Room) : Outcome :=
  match room.game with
  | none => .waits room
  | some (t, .forAck) => .waits { room with game := some (t, .forMove) }
  | some (_, .forMove) => .dies

/-- `server2_joinRoom`; the memory for the game holds `turnCount`. -/
def Room.joins (room : Room) (clientSocket : Nat) (turnCount : Int) (breaks : Breaks) :
    Outcome :=
  match server2JoinRoom room.state clientSocket with
  | .creates => .waits { room with
      state := server2CreateRoom room.state clientSocket
      broken := Function.update room.broken .x false }
  | .plays state =>
      let room := { room with state := state, broken := Function.update room.broken .o false }
      room.announce breaks { board := blankBoard, currentPlayer := .x, turnCount := turnCount }
  | .blocked state => .waits { room with state := state }
  | .full => .waits room

/-- `server2_destroy` frees every room, and then the process exits. -/
def Server.destroy (_ : Server) : Option Server := none

def Server.after (server : Server) (i : Fin 5) : Outcome → Option Server
  | .waits room => some (server.set i room)
  | .ends room => (server.set i room).destroy
  | .dies => none

def Server.step (server : Server) : RoomEvent → Option Server
  | .breaks i seat => some (server.set i { server i with
      broken := Function.update (server i).broken seat true })
  | .firstMessage clientSocket buffer turnCount breaks =>
      match joinedRoom buffer with
      | some i => server.after i ((server i).joins clientSocket turnCount breaks)
      | none => some server
  | .firstMessageFails => none
  | .receives i buffer breaks => server.after i ((server i).receives buffer breaks)
  | .recvFails i => server.after i (server i).recvFails

/-! ## Independence -/

def RoomEvent.room : RoomEvent → Option (Fin 5)
  | .breaks i _ => some i
  | .firstMessage _ buffer _ _ => joinedRoom buffer
  | .firstMessageFails => none
  | .receives i _ _ => some i
  | .recvFails i => some i

def EndsGame (server : Server) (i : Fin 5) : RoomEvent → Prop
  | .receives room buffer _ => room = i ∧ ∃ t move, (server i).game = some (t, .forMove) ∧
      server2Move buffer = some move ∧ decided (tttMakeMove t move).2 = true
  | _ => False

/-- The next client that asks for the room gets the first seat. -/
def Joinable (room : Room) : Prop :=
  ∀ clientSocket, server2JoinRoom room.state clientSocket = .creates

/-- The process goes on, every other room is as it was, and a room whose game ends can be
joined again. -/
def Independent (server : Server) (event : RoomEvent) : Prop :=
  ∃ next, server.step event = some next ∧
    (∀ j, event.room ≠ some j → next j = server j) ∧
    ∀ i, EndsGame server i event → Joinable (next i)

/-- No message finds the connection of its seat broken, neither before the event nor by
what breaks in front of the `send`. -/
def Unbroken (room : Room) (breaks : Breaks) (messages : List (Player × Text)) : Prop :=
  ∀ n seat cmd, messages[n]? = some (seat, cmd) →
    room.broken seat = false ∧ ∀ m, m ≤ n → breaks m seat = false

/-- No new client fails, no connection is broken when it is written to, the one whose move
is awaited does not fail, and no game is decided.  The second client that joins comes with
a connection of its own. -/
def Harmless (server : Server) : RoomEvent → Prop
  | .breaks _ _ => True
  | .firstMessage _ buffer _ breaks => ∀ i, joinedRoom buffer = some i →
      (server i).state.numActivePlayers = 1 → (server i).state.gameRunning = false →
        Unbroken { server i with broken := Function.update (server i).broken .o false } breaks
          [(.x, turnWord), (.o, waitWord)]
  | .firstMessageFails => False
  | .receives i buffer breaks => ∀ t, (server i).game = some (t, .forMove) →
      Unbroken (server i) breaks (moveMessages t buffer) ∧
        ∀ move, server2Move buffer = some move → decided (tttMakeMove t move).2 = false
  | .recvFails i => ∀ t, (server i).game ≠ some (t, .forMove)

variable {server : Server} {i : Fin 5}

theorem set_other {j : Fin 5} (differs : i ≠ j) (room : Room) : server.set i room j = server j :=
  Function.update_of_ne differs.symm ..

/-- A thread that waits again has touched its own room alone. -/
theorem independent_of_waits {event : RoomEvent} {outcome : Outcome} {room : Room}
    (about : event.room = some i) (steps : server.step event = server.after i outcome)
    (waits : outcome = .waits room) (undecided : ∀ j, ¬ EndsGame server j event) :
    Independent server event := by
  subst waits
  refine ⟨server.set i room, steps, fun j other => ?_, fun j ends => absurd ends (undecided j)⟩
  rw [about] at other
  exact set_other (fun same => other (congrArg some same)) room

theorem Independent.waits {event : RoomEvent} {outcome : Outcome}
    (independent : Independent server event)
    (steps : server.step event = server.after i outcome) : ∃ room, outcome = .waits room := by
  obtain ⟨next, taken, _⟩ := independent
  rw [steps] at taken
  cases outcome with
  | waits room => exact ⟨room, rfl⟩
  | ends room => cases taken
  | dies => cases taken

theorem unbroken_nil {room : Room} {breaks : Breaks} : Unbroken room breaks [] := by
  intro n seat cmd found
  cases found

theorem unbroken_cons {room : Room} {breaks : Breaks} {seat : Player} {cmd : Text}
    {rest : List (Player × Text)} :
    Unbroken room breaks ((seat, cmd) :: rest) ↔
      (room.loses (breaks 0)).broken seat = false ∧
        Unbroken (room.loses (breaks 0)) (breaks.after 1) rest := by
  constructor
  · intro unbroken
    obtain ⟨whole, none⟩ := unbroken 0 seat cmd rfl
    refine ⟨Bool.or_eq_false_iff.mpr ⟨whole, none 0 (Nat.le_refl 0)⟩, fun n later text found => ?_⟩
    obtain ⟨whole, none⟩ := unbroken (n + 1) later text found
    refine ⟨Bool.or_eq_false_iff.mpr ⟨whole, none 0 (Nat.zero_le _)⟩, fun m before => ?_⟩
    exact none (1 + m) (by omega)
  · rintro ⟨whole, unbroken⟩ n later text found
    cases n with
    | zero =>
        obtain ⟨rfl, rfl⟩ := Prod.mk.inj (Option.some.inj found)
        obtain ⟨kept, none⟩ := Bool.or_eq_false_iff.mp whole
        exact ⟨kept, fun m first => Nat.le_zero.mp first ▸ none⟩
    | succ n =>
        obtain ⟨kept, later⟩ := unbroken n later text found
        obtain ⟨kept, none⟩ := Bool.or_eq_false_iff.mp kept
        refine ⟨kept, fun m before => ?_⟩
        cases m with
        | zero => exact none
        | succ m =>
            have same : 1 + m = m + 1 := Nat.add_comm 1 m
            exact same ▸ later m (Nat.le_of_succ_le_succ before)

theorem sendAll_isSome_iff (room : Room) (breaks : Breaks) (messages : List (Player × Text)) :
    (∃ next, room.sendAll breaks messages = some next) ↔ Unbroken room breaks messages := by
  induction messages generalizing room breaks with
  | nil => exact iff_of_true ⟨room, rfl⟩ unbroken_nil
  | cons message rest inductionHypothesis =>
      obtain ⟨seat, cmd⟩ := message
      rw [Room.sendAll, unbroken_cons, ← inductionHypothesis]
      cases (room.loses (breaks 0)).broken seat <;> simp

theorem sendAll_append (room : Room) (breaks : Breaks) (first last : List (Player × Text)) :
    room.sendAll breaks (first ++ last) =
      (room.sendAll breaks first).bind fun room =>
        room.sendAll (breaks.after first.length) last := by
  induction first generalizing room breaks with
  | nil =>
      have same : breaks.after 0 = breaks := funext fun n => congrArg breaks (Nat.zero_add n)
      rw [List.nil_append, List.length_nil, same, Room.sendAll, Option.bind_some]
  | cons message rest inductionHypothesis =>
      obtain ⟨seat, cmd⟩ := message
      have same : (breaks.after 1).after rest.length = breaks.after (rest.length + 1) := by
        funext n
        exact congrArg breaks (by omega)
      rw [List.cons_append, Room.sendAll, Room.sendAll, List.length_cons, ← same]
      cases (room.loses (breaks 0)).broken seat
      · exact inductionHypothesis ..
      · rfl

theorem announce_waits_iff {room : Room} {breaks : Breaks} {t : TicTacToe} :
    (∃ next, room.announce breaks t = .waits next) ↔ Unbroken room breaks (turnMessages t) := by
  rw [Room.announce, ← sendAll_isSome_iff]
  cases room.sendAll breaks (turnMessages t) <;> simp

theorem verdictMessages_of_undecided {t : TicTacToe} (undecided : decided t = false) :
    verdictMessages t = turnMessages t := by
  rw [decided, Bool.or_eq_false_iff, Bool.or_eq_false_iff] at undecided
  obtain ⟨⟨notX, notO⟩, noDraw⟩ := undecided
  rw [verdictMessages, notX, notO, noDraw]
  rfl

theorem plays_waits_iff {room : Room} {breaks : Breaks} {t : TicTacToe} {buffer : Text}
    {move : Int} (reads : server2Move buffer = some move) :
    (∃ next, room.plays breaks t buffer move = .waits next) ↔
      Unbroken room breaks (moveMessages t buffer) ∧
        decided (tttMakeMove t move).2 = false := by
  have messages : moveMessages t buffer =
      [(t.currentPlayer.other, buffer), (t.currentPlayer, buffer)] ++
        verdictMessages (tttMakeMove t move).2 := by
    rw [moveMessages, reads]
    rfl
  rw [messages, ← sendAll_isSome_iff, sendAll_append, Room.plays]
  cases room.sendAll breaks [(t.currentPlayer.other, buffer), (t.currentPlayer, buffer)] with
  | none => simp
  | some room =>
      cases undecided : decided (tttMakeMove t move).2 with
      | true =>
          dsimp only
          cases room.sendAll (breaks.after 2) (verdictMessages (tttMakeMove t move).2) <;> simp
      | false =>
          have later : (∃ next, room.announce (breaks.after 2) (tttMakeMove t move).2 =
              .waits next) ↔ _ := announce_waits_iff
          rw [← verdictMessages_of_undecided undecided, ← sendAll_isSome_iff] at later
          simpa using later

theorem receives_waits_iff {room : Room} {buffer : Text} {breaks : Breaks} :
    (∃ next, room.receives buffer breaks = .waits next) ↔
      ∀ t, room.game = some (t, .forMove) →
        Unbroken room breaks (moveMessages t buffer) ∧
          ∀ move, server2Move buffer = some move → decided (tttMakeMove t move).2 = false := by
  rw [Room.receives]
  cases game : room.game with
  | none => simp
  | some playing =>
      obtain ⟨t, waits⟩ := playing
      cases waits with
      | forAck => simp
      | forMove =>
          cases move : server2Move buffer with
          | none => simp [announce_waits_iff, moveMessages, move]
          | some n => simp [plays_waits_iff move]

theorem recvFails_waits_iff {room : Room} :
    (∃ next, room.recvFails = .waits next) ↔ ∀ t, room.game ≠ some (t, .forMove) := by
  rw [Room.recvFails]
  cases game : room.game with
  | none => simp
  | some playing =>
      obtain ⟨t, waits⟩ := playing
      cases waits <;> simp

theorem joins_waits_iff {room : Room} {clientSocket : Nat} {turnCount : Int} {breaks : Breaks} :
    (∃ next, room.joins clientSocket turnCount breaks = .waits next) ↔
      (room.state.numActivePlayers = 1 → room.state.gameRunning = false →
        Unbroken { room with broken := Function.update room.broken .o false } breaks
          [(.x, turnWord), (.o, waitWord)]) := by
  rw [Room.joins]
  rcases server2JoinRoom_cases room.state clientSocket with
    ⟨creates, empty⟩ | ⟨one, idle, plays⟩ | ⟨one, running, blocked⟩ | ⟨full, several⟩
  · simp [creates, empty]
  · rw [plays]
    dsimp only
    rw [announce_waits_iff]
    exact ⟨fun unbroken _ _ => unbroken, fun unbroken => unbroken one idle⟩
  · simp [blocked, running]
  · simp [full, several]

theorem independent_iff (event : RoomEvent) : Independent server event ↔ Harmless server event := by
  cases event with
  | breaks i seat =>
      exact ⟨fun _ => trivial, fun _ =>
        @independent_of_waits server i _ (.waits _) _ rfl rfl rfl fun _ ends => ends⟩
  | firstMessageFails =>
      constructor
      · rintro ⟨next, taken, _⟩
        cases taken
      · exact False.elim
  | receives i buffer breaks =>
      constructor
      · exact fun independent => receives_waits_iff.mp (independent.waits rfl)
      · intro harmless
        obtain ⟨room, waits⟩ := receives_waits_iff.mpr harmless
        refine independent_of_waits rfl rfl waits fun j ends => ?_
        obtain ⟨rfl, t, move, game, reads, decides⟩ := ends
        rw [(harmless t game).2 move reads] at decides
        cases decides
  | recvFails i =>
      constructor
      · exact fun independent => recvFails_waits_iff.mp (independent.waits rfl)
      · intro harmless
        obtain ⟨room, waits⟩ := recvFails_waits_iff.mpr harmless
        exact independent_of_waits rfl rfl waits fun _ ends => ends
  | firstMessage clientSocket buffer turnCount breaks =>
      cases asked : joinedRoom buffer with
      | none =>
          have taken : server.step (.firstMessage clientSocket buffer turnCount breaks) =
              some server := by
            rw [Server.step, asked]
          constructor
          · intro _ i found
            rw [asked] at found
            cases found
          · exact fun _ => ⟨server, taken, fun _ _ => rfl, fun _ ends => ends.elim⟩
      | some i =>
          have joins : server.step (.firstMessage clientSocket buffer turnCount breaks) =
              server.after i ((server i).joins clientSocket turnCount breaks) := by
            rw [Server.step, asked]
          constructor
          · intro independent other found
            obtain rfl := Option.some.inj (asked.symm.trans found)
            exact joins_waits_iff.mp (independent.waits joins)
          · intro harmless
            obtain ⟨room, waits⟩ := joins_waits_iff.mpr (harmless i asked)
            exact independent_of_waits asked joins waits fun _ ends => ends

/-! ## A client that leaves -/

def joinZero : Text := joinWord ++ [48]

def gameStarts : List RoomEvent :=
  [.firstMessage 4 joinZero 0 noBreaks, .firstMessage 5 joinZero 0 noBreaks,
    .receives 0 ackWord noBreaks]

def joinedServer : Server :=
  runEnd Server.step (Server.new fun _ => false) gameStarts

/-- The whole server exits when X closes its connection instead of moving. -/
theorem closed_not_independent :
    run Server.step (Server.new fun _ => false) gameStarts = some joinedServer ∧
      ¬ Independent joinedServer (.recvFails 0) := by
  constructor
  · exact run_eq_runEnd (by decide +kernel)
  · rintro ⟨next, taken, _⟩
    have gone : (joinedServer.step (.recvFails 0)).isNone = true := by decide +kernel
    rw [taken] at gone
    cases gone

/-- O leaves when it is told the first move: the process is gone at its next message. -/
example : (joinedServer.step (.receives 0 [77, 65, 82, 75, 32, 53] fun n seat =>
    n = 2 && seat = .o)).isNone = true := by decide +kernel

end Cmput313.Ttt.Part2
