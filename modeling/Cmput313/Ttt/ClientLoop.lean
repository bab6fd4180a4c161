import Cmput313.Ttt.Part2

/-!
# The loop of a client of part 2

`client2_runGame` over the results of `recv`, which are pieces of the server's stream of
any length: what each call of `client2_receiveServerResponse` takes for a command, what
the player types, and how the client ends.
-/

set_option autoImplicit false

namespace Cmput313.Ttt.Part2

open Cmput313.CText

/-! ## Commands -/

inductive ServerCommand where
  | turn
  | wait
  | mark (n : Int)
  | win
  | lose
  | draw
  deriving DecidableEq

def ServerCommand.IsResult (command : ServerCommand) : Prop :=
  command = .win ∨ command = .lose ∨ command = .draw

instance (command : ServerCommand) : Decidable command.IsResult :=
  inferInstanceAs (Decidable (_ ∨ _ ∨ _))

/-- The command that the client acts on when its buffer holds this text. -/
def understood (response : Text) : Option ServerCommand :=
  match scanCommand response with
  | some (cmd, n) => if cmd = markWord then some (.mark n) else none
  | none =>
      if response = winWord then some .win
      else if response = loseWord then some .lose
      else if response = drawWord then some .draw
      else if response = turnWord then some .turn
      else if response = waitWord then some .wait
      else none

/-- The text is the word of a command, or MARK and so much that `%d` reads its number. -/
def Tells : ServerCommand → Text → Prop
  | .turn, text => text = turnWord
  | .wait, text => text = waitWord
  | .mark n, text => markWord ++ [32] <+: text ∧ (scanInt (text.drop 4)).map Prod.fst = some n
  | .win, text => text = winWord
  | .lose, text => text = loseWord
  | .draw, text => text = drawWord

instance : ∀ (command : ServerCommand) (text : Text), Decidable (Tells command text)
  | .turn, text => inferInstanceAs (Decidable (text = turnWord))
  | .wait, text => inferInstanceAs (Decidable (text = waitWord))
  | .mark n, text => inferInstanceAs (Decidable
      (markWord ++ [32] <+: text ∧ (scanInt (text.drop 4)).map Prod.fst = some n))
  | .win, text => inferInstanceAs (Decidable (text = winWord))
  | .lose, text => inferInstanceAs (Decidable (text = loseWord))
  | .draw, text => inferInstanceAs (Decidable (text = drawWord))

theorem understood_word_iff {command : ServerCommand} (word : ∀ n, command ≠ .mark n)
    {part : Text} : understood part = some command ↔ Tells command part := by
  constructor
  · intro reads
    rw [understood] at reads
    split at reads
    · split at reads
      · exact absurd (Option.some.inj reads).symm (word _)
      · cases reads
    · split_ifs at reads with win lose draw turn wait <;> cases reads <;> assumption
  · intro tells
    cases command with
    | mark n => exact absurd rfl (word n)
    | _ => rw [show part = _ from tells]; decide

theorem understood_mark_iff {part : Text} {n : Int} :
    understood part = some (.mark n) ↔ scanCommand part = some (markWord, n) := by
  rw [understood]
  split
  · rename_i cmd number scanned
    rw [scanned, Option.some_inj, Prod.mk.injEq]
    split
    · rename_i word
      simp [word]
    · rename_i word
      simp [word]
  · rename_i scanned
    rw [scanned]
    split_ifs <;> simp

theorem client2ReceiveServerResponse_eq (t : TicTacToe) (buffer : Text) :
    client2ReceiveServerResponse t buffer =
      match understood (cText buffer) with
      | some (.mark n) => .responds (tttMakeMove t n).2 (cText buffer)
      | some .win => .exits
      | some .lose => .exits
      | some .draw => .exits
      | _ => .responds t (cText buffer) := by
  cases scanned : scanCommand (cText buffer) with
  | some found =>
      obtain ⟨cmd, n⟩ := found
      by_cases word : cmd = markWord
      · simp [client2ReceiveServerResponse, understood, toldMove, scanned, word]
      · simp [client2ReceiveServerResponse, understood, toldMove, scanned, word]
  | none =>
      simp only [client2ReceiveServerResponse, understood, scanned]
      by_cases win : cText buffer = winWord
      · rw [if_pos (Or.inl win), if_pos win]
      · by_cases lose : cText buffer = loseWord
        · rw [if_pos (Or.inr (Or.inl lose)), if_neg win, if_pos lose]
        · by_cases draw : cText buffer = drawWord
          · rw [if_pos (Or.inr (Or.inr draw)), if_neg win, if_neg lose, if_pos draw]
          · have noResult : ¬ (cText buffer = winWord ∨ cText buffer = loseWord ∨
                cText buffer = drawWord) := not_or.mpr ⟨win, not_or.mpr ⟨lose, draw⟩⟩
            rw [if_neg noResult, if_neg win, if_neg lose, if_neg draw]
            by_cases turn : cText buffer = turnWord
            · rw [if_pos turn]
            · by_cases wait : cText buffer = waitWord
              · rw [if_neg turn, if_pos wait]
              · rw [if_neg turn, if_neg wait]

/-! ## What is announced -/

inductive Announcement where
  | won
  | lost
  | drew
  deriving DecidableEq

/-- The tests at the end of the loop of `client2_runGame`. -/
def ownAnnouncement (t : TicTacToe) : Option Announcement :=
  if tttCheckWin t .x then some .won
  else if tttCheckWin t .o then some .lost
  else if tttIsDraw t then some .drew
  else none

/-- What `client2_receiveServerResponse` says before it exits. -/
def wordAnnouncement (response : Text) : Option Announcement :=
  if response = winWord then some .won
  else if response = loseWord then some .lost
  else if response = drawWord then some .drew
  else none

theorem ownAnnouncement_eq_none_iff {t : TicTacToe} :
    ownAnnouncement t = none ↔ decided t = false := by
  rw [ownAnnouncement, decided]
  cases tttCheckWin t .x <;> cases tttCheckWin t .o <;> cases tttIsDraw t <;> decide

/-! ## The loop -/

structure Recv where
  bytes : Text
  some_ : bytes ≠ []
  fits : bytes.length ≤ 511
  deriving DecidableEq

/-- `char buffer[512]`, which was set to zero. -/
def Recv.buffer (result : Recv) : Text :=
  result.bytes ++ List.replicate (512 - result.bytes.length) 0

theorem Recv.cText_buffer (result : Recv) : cText result.buffer = cText result.bytes := by
  rw [Recv.buffer, cText, cText]
  generalize 512 - result.bytes.length = count
  induction result.bytes with
  | nil => cases count <;> rfl
  | cons char rest inductionHypothesis =>
      rw [List.cons_append, List.takeWhile_cons, List.takeWhile_cons, inductionHypothesis]

/-- The prompt: the position of the first line that is a command, unless a read fails
before it (`none`, and at the end of the input); and what is left to read. -/
def typedMove : List (Option Line) → Option Int × List (Option Line)
  | [] => (none, [])
  | none :: rest => (none, rest)
  | some line :: rest =>
      match scanMark line.text with
      | some position => (some position, rest)
      | none => typedMove rest

/-- What a client has done: the commands that it has acted on, its structure, and what it
has announced when it left. -/
structure Played where
  acted : List ServerCommand
  t : TicTacToe
  announced : Option Announcement

def afterResponse (t : TicTacToe) (stdin : List (Option Line)) (response : Text) :
    TicTacToe × List (Option Line) :=
  if response = turnWord then
    match typedMove stdin with
    | (some position, rest) => ((tttMakeMove t position).2, rest)
    | (none, rest) => (t, rest)
  else (t, stdin)

def client2RunGame : TicTacToe → List (Option Line) → List Recv → Played
  | t, _, [] => { acted := [], t := t, announced := none }
  | t, stdin, result :: later =>
      let command := (understood (cText result.buffer)).toList
      match client2ReceiveServerResponse t result.buffer with
      | .exits =>
          { acted := command, t := t, announced := wordAnnouncement (cText result.buffer) }
      | .responds t response =>
          let (t, stdin) := afterResponse t stdin response
          match ownAnnouncement t with
          | some announcement => { acted := command, t := t, announced := some announcement }
          | none =>
              let rest := client2RunGame t stdin later
              { rest with acted := command ++ rest.acted }

/-! ## One round of the loop -/

def obey (t : TicTacToe) (stdin : List (Option Line)) :
    ServerCommand → TicTacToe × List (Option Line)
  | .turn => afterResponse t stdin turnWord
  | .mark n => ((tttMakeMove t n).2, stdin)
  | _ => (t, stdin)

theorem afterResponse_of_understood {t : TicTacToe} {stdin : List (Option Line)}
    {response : Text} (noTurn : understood response ≠ some .turn) :
    afterResponse t stdin response = (t, stdin) := by
  refine if_neg ?_
  rintro rfl
  exact noTurn rfl

section Round

variable {t : TicTacToe} (stdin : List (Option Line)) {result : Recv} (later : List Recv)

theorem client2RunGame_silent (undecided : decided t = false)
    (silent : understood (cText result.buffer) = none) :
    client2RunGame t stdin (result :: later) = client2RunGame t stdin later := by
  have noTurn : understood (cText result.buffer) ≠ some .turn := by
    rw [silent]
    exact nofun
  have own : ownAnnouncement t = none := ownAnnouncement_eq_none_iff.mpr undecided
  simp only [client2RunGame, client2ReceiveServerResponse_eq, silent,
    afterResponse_of_understood noTurn, own]
  rfl

theorem client2RunGame_result {command : ServerCommand} (isResult : command.IsResult)
    (reads : understood (cText result.buffer) = some command) :
    client2RunGame t stdin (result :: later) =
      { acted := [command], t := t, announced := wordAnnouncement (cText result.buffer) } := by
  rcases isResult with rfl | rfl | rfl <;>
    simp only [client2RunGame, client2ReceiveServerResponse_eq, reads, Option.toList_some]

theorem client2RunGame_obeys {command : ServerCommand} (noResult : ¬ command.IsResult)
    (reads : understood (cText result.buffer) = some command) :
    client2RunGame t stdin (result :: later) =
      match ownAnnouncement (obey t stdin command).1 with
      | some announcement =>
          { acted := [command], t := (obey t stdin command).1, announced := some announcement }
      | none =>
          let rest := client2RunGame (obey t stdin command).1 (obey t stdin command).2 later
          { rest with acted := command :: rest.acted } := by
  cases command with
  | turn =>
      have word : cText result.buffer = turnWord :=
        (understood_word_iff (by intro n; exact nofun)).mp reads
      simp only [client2RunGame, client2ReceiveServerResponse_eq, word, obey]
      rfl
  | win => exact absurd (Or.inl rfl) noResult
  | lose => exact absurd (Or.inr (Or.inl rfl)) noResult
  | draw => exact absurd (Or.inr (Or.inr rfl)) noResult
  | _ =>
      have noTurn : understood (cText result.buffer) ≠ some .turn := by
        rw [reads]
        exact nofun
      simp only [client2RunGame, client2ReceiveServerResponse_eq, reads, Option.toList_some,
        afterResponse_of_understood noTurn, obey]
      rfl

end Round

/-! ## The loop and the seat of a room -/

def Seat.prompts (seat : Seat) : List (Option Line) → Seat
  | [] => seat.readFails
  | none :: _ => seat.readFails
  | some line :: rest =>
      match scanMark line.text with
      | some _ => seat.types line
      | none => (seat.types line).prompts rest

theorem Seat.prompts_eq (seat : Seat) (stdin : List (Option Line)) :
    (seat.prompts stdin).client = (afterResponse seat.client stdin turnWord).1 ∧
      (seat.prompts stdin).phase = .afterTurn (afterResponse seat.client stdin turnWord).1 := by
  have prompts : afterResponse seat.client stdin turnWord =
      match typedMove stdin with
      | (some position, rest) => ((tttMakeMove seat.client position).2, rest)
      | (none, rest) => (seat.client, rest) := if_pos rfl
  rw [prompts]
  clear prompts
  induction stdin with
  | nil => exact ⟨rfl, rfl⟩
  | cons read rest inductionHypothesis =>
      cases read with
      | none => exact ⟨rfl, rfl⟩
      | some line =>
          rw [Seat.prompts, typedMove]
          cases typed : scanMark line.text with
          | some position =>
              simp only [Seat.types, typed, and_self]
          | none =>
              simp only [Seat.types, typed]
              exact inductionHypothesis

/-- A seat receives a message and, behind a TURN, prompts. -/
def Seat.round (seat : Seat) (stdin : List (Option Line)) (message : Text)
    (later : List Text) : Seat :=
  let seat := seat.receives message later
  if seat.phase = .prompting then seat.prompts stdin else seat

theorem afterTurn_exited_iff {t : TicTacToe} :
    ClientPhase.afterTurn t = .exited ↔ ownAnnouncement t ≠ none := by
  rw [ne_eq, ownAnnouncement_eq_none_iff, ClientPhase.afterTurn]
  cases decided t <;> decide

theorem wordAnnouncement_of_exits {t : TicTacToe} {buffer : Text}
    (exits : client2ReceiveServerResponse t buffer = .exits) :
    wordAnnouncement (cText buffer) ≠ none := by
  rw [client2ReceiveServerResponse] at exits
  split at exits
  · split at exits <;> cases exits
  · split at exits
    · rename_i word
      rcases word with win | lose | draw
      · rw [win]
        decide
      · rw [lose]
        decide
      · rw [draw]
        decide
    · cases exits

/-- One round of the loop is what a seat does with a message that arrives whole: its
structure is the same, and it has exited when a result is announced. -/
theorem round_eq_client2RunGame (seat : Seat) (stdin : List (Option Line)) (result : Recv)
    (later : List Text) :
    (seat.round stdin result.buffer later).client =
        (client2RunGame seat.client stdin [result]).t ∧
      ((seat.round stdin result.buffer later).phase = .exited ↔
        (client2RunGame seat.client stdin [result]).announced ≠ none) := by
  have outcome : client2ReceiveServerResponse seat.client result.buffer = .exits ∨
      ∃ t response, client2ReceiveServerResponse seat.client result.buffer =
        .responds t response := by
    cases client2ReceiveServerResponse seat.client result.buffer with
    | exits => exact Or.inl rfl
    | responds t response => exact Or.inr ⟨t, response, rfl⟩
  rcases outcome with exits | ⟨t, response, responds⟩
  · simp only [Seat.round, Seat.receives, client2RunGame, exits, reduceCtorEq, if_false]
    exact ⟨trivial, iff_of_true trivial (wordAnnouncement_of_exits exits)⟩
  · have announces : (client2RunGame seat.client stdin [result]).t =
          (afterResponse t stdin response).1 ∧
        (client2RunGame seat.client stdin [result]).announced =
          ownAnnouncement (afterResponse t stdin response).1 := by
      simp only [client2RunGame, responds]
      cases ownAnnouncement (afterResponse t stdin response).1 <;> exact ⟨rfl, rfl⟩
    rw [announces.1, announces.2, ← afterTurn_exited_iff]
    simp only [Seat.round, Seat.receives, responds]
    by_cases turn : response = turnWord
    · subst turn
      rw [if_pos (if_pos rfl)]
      obtain ⟨client, phase⟩ := Seat.prompts_eq { seat with
        client := t
        phase := if turnWord = turnWord then .prompting else .afterTurn t
        inbox := later
        outbox := seat.outbox ++ [ackWord] } stdin
      exact ⟨client, by rw [phase]⟩
    · have noPrompt : ClientPhase.afterTurn t ≠ .prompting := by
        rw [ClientPhase.afterTurn]
        split <;> decide
      rw [if_neg turn, if_neg noPrompt, afterResponse, if_neg turn]
      exact ⟨rfl, Iff.rfl⟩

end Cmput313.Ttt.Part2
