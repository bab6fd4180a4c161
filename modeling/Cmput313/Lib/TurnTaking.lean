import Mathlib.Tactic.Common

/-!
# Replicas of a game with turns

A game in which a move is legal or changes nothing, a move that is illegal stays so,
and a legal move passes the turn.  A server plays the moves that its players send and
tells every player each of them; a player plays an own move at once.  As long as a
player sends moves only from a replica on which it has the turn, the replica and the
server differ by the messages between them alone.
-/

set_option autoImplicit false

namespace Cmput313.TurnTaking

structure Turns (σ π α : Type) where
  play : σ → α → σ
  Legal : σ → α → Prop
  turn : σ → π
  play_illegal : ∀ {state move}, ¬ Legal state move → play state move = state
  illegal_play : ∀ {state move} other, ¬ Legal state move → ¬ Legal (play state other) move
  illegal_played : ∀ {state move}, ¬ Legal (play state move) move
  turn_play : ∀ {state move}, Legal state move → turn (play state move) ≠ turn state

namespace Turns

variable {σ π α : Type} (game : Turns σ π α)

def playAll (state : σ) (moves : List α) : σ := moves.foldl game.play state

def Quiet (state : σ) (moves : List α) : Prop := ∀ move ∈ moves, ¬ game.Legal state move

/-- Played from here on, no legal move is made with the turn at `player`. -/
def NotBy (player : π) : σ → List α → Prop
  | _, [] => True
  | state, move :: rest =>
      (game.Legal state move → game.turn state ≠ player) ∧
        NotBy player (game.play state move) rest

/-- Played from here on, every move, legal or not, is made with the turn at `player`. -/
def ByOnly (player : π) : σ → List α → Prop
  | _, [] => True
  | state, move :: rest =>
      game.turn state = player ∧ ByOnly player (game.play state move) rest

/-- The replica of `player` with the moves on their way to it, and the server with the
moves on their way from it. -/
structure InSync (player : π) (server replica : σ) (inbox outbox : List α) : Prop where
  meet : game.playAll replica inbox = game.playAll server outbox
  others : game.NotBy player replica inbox
  own : game.ByOnly player server outbox

variable {game}

/-! ## Moves that change nothing -/

theorem playAll_append (state : σ) (moves : List α) (move : α) :
    game.playAll state (moves ++ [move]) = game.play (game.playAll state moves) move := by
  rw [playAll, List.foldl_append]
  rfl

theorem illegal_playAll {state : σ} {move : α} (illegal : ¬ game.Legal state move)
    (moves : List α) : ¬ game.Legal (game.playAll state moves) move := by
  induction moves generalizing state with
  | nil => exact illegal
  | cons other rest inductionHypothesis =>
      exact inductionHypothesis (game.illegal_play other illegal)

theorem playAll_quiet {state : σ} {moves : List α} (quiet : game.Quiet state moves) :
    game.playAll state moves = state := by
  induction moves with
  | nil => rfl
  | cons move rest inductionHypothesis =>
      have first := game.play_illegal (quiet move (List.mem_cons_self ..))
      have later := inductionHypothesis fun other member =>
        quiet other (List.mem_cons_of_mem _ member)
      calc game.playAll state (move :: rest)
          = game.playAll (game.play state move) rest := rfl
        _ = game.playAll state rest := by rw [first]
        _ = state := later

theorem Quiet.play {state : σ} {moves : List α} (quiet : game.Quiet state moves) (move : α) :
    game.Quiet (game.play state move) moves :=
  fun other member => game.illegal_play move (quiet other member)

theorem NotBy.quiet {player : π} {state : σ} {moves : List α}
    (others : game.NotBy player state moves) (turn : game.turn state = player) :
    game.Quiet state moves := by
  induction moves with
  | nil => exact fun move member => absurd member List.not_mem_nil
  | cons first rest inductionHypothesis =>
      have illegal : ¬ game.Legal state first := fun legal => others.1 legal turn
      have later := others.2
      rw [game.play_illegal illegal] at later
      intro move member
      rcases List.mem_cons.mp member with same | inRest
      · exact same ▸ illegal
      · exact inductionHypothesis later move inRest

theorem Quiet.notBy {player : π} {state : σ} {moves : List α}
    (quiet : game.Quiet state moves) : game.NotBy player state moves := by
  induction moves generalizing state with
  | nil => trivial
  | cons first rest inductionHypothesis =>
      have illegal := quiet first (List.mem_cons_self ..)
      have later : game.Quiet state rest := fun move member =>
        quiet move (List.mem_cons_of_mem _ member)
      exact ⟨fun legal => absurd legal illegal, inductionHypothesis (later.play first)⟩

/-! ## One more move -/

theorem NotBy.append {player : π} {state : σ} {moves : List α} {move : α}
    (others : game.NotBy player state moves)
    (last : game.Legal (game.playAll state moves) move →
      game.turn (game.playAll state moves) ≠ player) :
    game.NotBy player state (moves ++ [move]) := by
  induction moves generalizing state with
  | nil => exact ⟨last, trivial⟩
  | cons first rest inductionHypothesis =>
      exact ⟨others.1, inductionHypothesis others.2 last⟩

theorem ByOnly.append {player : π} {state : σ} {moves : List α} {move : α}
    (own : game.ByOnly player state moves)
    (last : game.turn (game.playAll state moves) = player) :
    game.ByOnly player state (moves ++ [move]) := by
  induction moves generalizing state with
  | nil => exact ⟨last, trivial⟩
  | cons first rest inductionHypothesis =>
      exact ⟨own.1, inductionHypothesis own.2 last⟩

theorem ByOnly.eq_nil {player : π} {state : σ} {moves : List α}
    (own : game.ByOnly player state moves) (turn : game.turn state ≠ player) :
    moves = [] := by
  cases moves with
  | nil => rfl
  | cons first rest => exact absurd own.1 turn

/-! ## What keeps a replica in step -/

theorem inSync_start (player : π) (state : σ) : game.InSync player state state [] [] where
  meet := rfl
  others := trivial
  own := trivial

variable {player : π} {server replica : σ} {inbox outbox : List α} {move : α}

theorem InSync.agree (inSync : game.InSync player server replica [] []) : replica = server :=
  inSync.meet

theorem InSync.receives (inSync : game.InSync player server replica (move :: inbox) outbox) :
    game.InSync player server (game.play replica move) inbox outbox where
  meet := inSync.meet
  others := inSync.others.2
  own := inSync.own

theorem InSync.moves (inSync : game.InSync player server replica inbox outbox)
    (turn : game.turn replica = player) (move : α) :
    game.InSync player server (game.play replica move) inbox (outbox ++ [move]) := by
  have quiet := inSync.others.quiet turn
  have here : replica = game.playAll server outbox :=
    calc replica = game.playAll replica inbox := (playAll_quiet quiet).symm
      _ = game.playAll server outbox := inSync.meet
  have meet : game.playAll (game.play replica move) inbox =
      game.playAll server (outbox ++ [move]) := by
    rw [playAll_append, ← here]
    exact playAll_quiet (quiet.play move)
  exact ⟨meet, (quiet.play move).notBy, inSync.own.append (here ▸ turn)⟩

theorem InSync.servedOwn (inSync : game.InSync player server replica inbox (move :: outbox)) :
    game.InSync player (game.play server move) replica (inbox ++ [move]) outbox := by
  have illegal : ¬ game.Legal (game.playAll replica inbox) move := by
    rw [inSync.meet]
    exact illegal_playAll game.illegal_played outbox
  have meet : game.playAll replica (inbox ++ [move]) =
      game.playAll (game.play server move) outbox := by
    rw [playAll_append, game.play_illegal illegal]
    exact inSync.meet
  exact ⟨meet, inSync.others.append fun legal => absurd legal illegal, inSync.own.2⟩

theorem InSync.servedOther (inSync : game.InSync player server replica inbox outbox)
    (turn : game.turn server ≠ player) :
    game.InSync player (game.play server move) replica (inbox ++ [move]) outbox := by
  obtain rfl := inSync.own.eq_nil turn
  have here : game.playAll replica inbox = server := inSync.meet
  have meet : game.playAll replica (inbox ++ [move]) = game.play server move := by
    rw [playAll_append, here]
  exact ⟨meet, inSync.others.append fun _ => here.symm ▸ turn, trivial⟩

theorem InSync.last (inSync : game.InSync player server replica inbox (move :: outbox))
    (legal : game.Legal server move) : outbox = [] :=
  inSync.own.2.eq_nil fun same => game.turn_play legal (same.trans inSync.own.1.symm)

end Turns

end Cmput313.TurnTaking
