import Cmput313.Ttt.Marks
import Cmput313.Ttt.Part1

/-!
# The server of part 1 keeps to the rules

Whatever the client sends and the operator types: when `server_runGame` comes to its
`recv`, it is X's turn on an undecided board with as many marks of X as of O.
-/

set_option autoImplicit false

namespace Cmput313.Ttt.Part1

open Cmput313.CText Cmput313.Machine

/-! ## The server by itself -/

inductive Mover where
  | client
  | operator
  deriving DecidableEq

/-- The structure of the server, where it waits, and the moves that it has accepted: who
has made them, and the structure that they found. -/
structure Server where
  t : TicTacToe
  phase : ServerPhase
  accepted : List (Mover × TicTacToe)
  deriving DecidableEq

namespace Server

def start : Server where
  t := tttNew
  phase := .receiving
  accepted := []

inductive Event where
  | receives (buffer : Text)
  | recvFails
  | operatorTypes (line : Line)
  | operatorReadFails

/-- A move that leaves the game undecided hands over to the other side. -/
def accepts (server : Server) (mover : Mover) (t : TicTacToe) (next : ServerPhase) : Server where
  t := t
  phase := if decided t then .exited else next
  accepted := server.accepted ++ [(mover, server.t)]

def receives (server : Server) (buffer : Text) : Server :=
  match handleMessage server.t buffer with
  | .crashes => { server with phase := .exited }
  | .timesOut => { server with phase := .exited }
  | .ignores => server
  | .plays t _ => server.accepts .client t .prompting

def operatorTypes (server : Server) (line : Line) : Server :=
  match serverHandleServerMove server.t line.command with
  | .again => server
  | .sends _ t _ => server.accepts .operator t .receiving

def step (server : Server) : Event → Option Server
  | .receives buffer =>
      if server.phase = .receiving then some (server.receives buffer) else none
  | .recvFails =>
      if server.phase = .receiving then some { server with phase := .exited } else none
  | .operatorTypes line =>
      if server.phase = .prompting then some (server.operatorTypes line) else none
  | .operatorReadFails => if server.phase = .prompting then some server else none

end Server

/-! ## Accepted moves -/

theorem handleMessage_makes {t t' : TicTacToe} {message buffer : Text}
    (plays : handleMessage t message = .plays t' buffer) :
    ∃ move, (tttMakeMove t move).1 = true ∧ (tttMakeMove t move).2 = t' := by
  simp only [handleMessage] at plays
  split at plays
  · cases plays
  · split at plays
    · cases plays
    · split at plays
      · cases plays
      · rename_i token rest second
        split at plays
        · rename_i made
          exact ⟨atoi token, made, (Handling.plays.inj plays).1⟩
        · cases plays

theorem serverHandleServerMove_makes {t t' : TicTacToe} {line command : Text} {exits : Bool}
    (sends : serverHandleServerMove t line = .sends command t' exits) :
    ∃ move, (tttMakeMove t move).1 = true ∧ (tttMakeMove t move).2 = t' := by
  simp only [serverHandleServerMove] at sends
  split at sends
  · cases sends
  · rename_i cmd n scanned
    split at sends
    · rename_i made
      exact ⟨n, made, (Attempt.sends.inj sends).2.1⟩
    · cases sends

theorem currentPlayer_of_made {t : TicTacToe} {move : Int}
    (made : (tttMakeMove t move).1 = true) :
    (tttMakeMove t move).2.currentPlayer = t.currentPlayer.other := by
  rw [tttMakeMove_of_made made]
  cases player : t.currentPlayer <;> simp [tttSwitchPlayer, Player.other]

/-! ## What every run keeps -/

namespace Mover

def other : Mover → Mover
  | .client => .operator
  | .operator => .client

def player : Mover → Player
  | .client => .x
  | .operator => .o

def phase : Mover → ServerPhase
  | .client => .receiving
  | .operator => .prompting

theorem player_other (mover : Mover) : mover.other.player = mover.player.other := by
  cases mover <;> rfl

theorem phase_inj {first second : Mover} (same : first.phase = second.phase) :
    first = second := by
  cases first <;> cases second <;> first | rfl | cases same

theorem phase_ne_exited (mover : Mover) : mover.phase ≠ .exited := by
  cases mover <;> decide

end Mover

def moverAt (index : Nat) : Mover := if index % 2 = 0 then .client else .operator

theorem moverAt_succ (index : Nat) : moverAt (index + 1) = (moverAt index).other := by
  unfold moverAt
  by_cases even : index % 2 = 0
  · have odd : (index + 1) % 2 ≠ 0 := by omega
    rw [if_pos even, if_neg odd]
    rfl
  · have next : (index + 1) % 2 = 0 := by omega
    rw [if_neg even, if_pos next]
    rfl

namespace Server

/-- It is the turn of who moves next, on a board that is not decided. -/
structure Turn (server : Server) (mover : Mover) : Prop where
  player : server.t.currentPlayer = mover.player
  next : moverAt server.accepted.length = mover
  undecided : decided server.t = false

structure Kept (server : Server) : Prop where
  counted : Counted server.t
  turn : ∀ mover, server.phase = mover.phase → server.Turn mover
  movers : server.accepted.map Prod.fst = (List.range server.accepted.length).map moverAt
  moved : ∀ entry ∈ server.accepted,
    entry.2.currentPlayer = entry.1.player ∧ decided entry.2 = false

variable {server : Server}

theorem start_kept : start.Kept where
  counted := counted_tttNew
  turn mover waits := by
    have client : Mover.client = mover := Mover.phase_inj waits
    subst client
    exact ⟨rfl, rfl, by decide⟩
  movers := rfl
  moved _ member := absurd member List.not_mem_nil

theorem Kept.exits (kept : server.Kept) : { server with phase := .exited }.Kept where
  counted := kept.counted
  turn mover waits := absurd waits.symm mover.phase_ne_exited
  movers := kept.movers
  moved := kept.moved

theorem Kept.accepts {mover : Mover} (kept : server.Kept) (turn : server.Turn mover)
    {move : Int} (made : (tttMakeMove server.t move).1 = true) :
    (server.accepts mover (tttMakeMove server.t move).2 mover.other.phase).Kept := by
  refine ⟨tttMakeMove_preserves_counted kept.counted move, ?_, ?_, ?_⟩
  · intro next waits
    simp only [Server.accepts] at waits
    split at waits
    · exact absurd waits.symm next.phase_ne_exited
    · rename_i undecided
      have same := Mover.phase_inj waits
      subst same
      refine ⟨?_, ?_, Bool.not_eq_true _ ▸ undecided⟩
      · rw [Mover.player_other, ← turn.player]
        exact currentPlayer_of_made made
      · change moverAt (server.accepted ++ [(mover, server.t)]).length = mover.other
        rw [List.length_append, List.length_singleton, moverAt_succ, turn.next]
  · simp only [Server.accepts, List.map_append, List.map_cons, List.map_nil, List.length_append,
      List.length_singleton, List.range_succ, kept.movers, turn.next]
  · intro entry member
    rcases List.mem_append.mp member with before | last
    · exact kept.moved entry before
    · rw [List.mem_singleton.mp last]
      exact ⟨turn.player, turn.undecided⟩

theorem Kept.receives (kept : server.Kept) (waits : server.phase = .receiving) (buffer : Text) :
    (server.receives buffer).Kept := by
  rw [Server.receives]
  cases handled : handleMessage server.t buffer with
  | crashes => exact kept.exits
  | timesOut => exact kept.exits
  | ignores => exact kept
  | plays t rest =>
      obtain ⟨move, made, result⟩ := handleMessage_makes handled
      subst result
      exact kept.accepts (kept.turn .client waits) made

theorem Kept.operatorTypes (kept : server.Kept) (waits : server.phase = .prompting)
    (line : Line) : (server.operatorTypes line).Kept := by
  rw [Server.operatorTypes]
  cases handled : serverHandleServerMove server.t line.command with
  | again => exact kept
  | sends command t exits =>
      obtain ⟨move, made, result⟩ := serverHandleServerMove_makes handled
      subst result
      exact kept.accepts (kept.turn .operator waits) made

theorem step_preserves_kept {next : Server} {event : Event} (kept : server.Kept)
    (taken : server.step event = some next) : next.Kept := by
  cases event with
  | receives buffer =>
      simp only [step] at taken
      split at taken
      · rename_i waits
        obtain rfl := Option.some.inj taken
        exact kept.receives waits buffer
      · cases taken
  | recvFails =>
      simp only [step] at taken
      split at taken
      · obtain rfl := Option.some.inj taken
        exact kept.exits
      · cases taken
  | operatorTypes line =>
      simp only [step] at taken
      split at taken
      · rename_i waits
        obtain rfl := Option.some.inj taken
        exact kept.operatorTypes waits line
      · cases taken
  | operatorReadFails =>
      simp only [step] at taken
      split at taken
      · obtain rfl := Option.some.inj taken
        exact kept
      · cases taken

/-- At its `recv` the server has a fair and undecided board with X to move; client and
operator have moved in turns, each with its own mark, and never on a decided board. -/
structure Fair (server : Server) : Prop where
  atRecv : server.phase = .receiving →
    server.t.currentPlayer = .x ∧
    (marked server.t.board .x).card = (marked server.t.board .o).card ∧
    server.t.turnCount = (marked server.t.board .x).card + (marked server.t.board .o).card ∧
    (∃ row col, server.t.board row col = none) ∧
    tttCheckWin server.t .x = false ∧ tttCheckWin server.t .o = false
  movers : server.accepted.map Prod.fst = (List.range server.accepted.length).map moverAt
  moved : ∀ entry ∈ server.accepted,
    entry.2.currentPlayer = entry.1.player ∧ decided entry.2 = false

theorem Kept.fair (kept : server.Kept) : server.Fair where
  atRecv waits := by
    have turn := kept.turn .client waits
    have xToMove : server.t.currentPlayer = .x := turn.player
    have balance := kept.counted.balance
    have undecided := turn.undecided
    rw [if_pos xToMove] at balance
    simp only [decided, Bool.or_eq_false_iff] at undecided
    exact ⟨xToMove, balance, kept.counted.turns, exists_free_of_counted kept.counted xToMove,
      undecided.1.1, undecided.1.2⟩
  movers := kept.movers
  moved := kept.moved

/-- For any messages, any lines and any failures. -/
theorem run_fair {events : List Event} (reached : run step start events = some server) :
    server.Fair :=
  (run_keeps (fun _ _ _ kept taken => step_preserves_kept kept taken) start_kept reached).fair

def oneRound : List Event :=
  [.receives markFive.text, .operatorTypes markFive, .operatorTypes markOne]

theorem oneRound_fair : (runEnd step start oneRound).Fair :=
  run_fair (run_eq_runEnd (by decide +kernel))

end Server

end Cmput313.Ttt.Part1
