import Cmput313.Ttt.Part1

/-!
# The two boards of part 1

Client and server each keep a board and tell each other their moves.  The boards
agree whenever the client prompts and nothing is in flight, as long as every line
that the server accepts from its operator starts with `MARK`.
-/

set_option autoImplicit false

namespace Cmput313.Ttt.Part1

open Cmput313.CText Cmput313.Machine

/-! ## The number that the server finds -/

/-- A MARK command: white space, the word, white space, and a number with only white
space behind it. -/
structure Layout (command spaces gap number : Text) (n : Int) : Prop where
  parts : command = spaces ++ (markWord ++ (gap ++ number))
  spaces : ∀ char ∈ spaces, isSpace char = true
  gap : ∀ char ∈ gap, isSpace char = true
  start : skipSpaces number = number
  scanned : ∃ tail, scanNumber number = some (n, tail) ∧ skipSpaces tail = []

theorem exists_layout {command : Text} {n : Int}
    (scanned : scanCommand command = some (markWord, n)) :
    ∃ spaces gap number, Layout command spaces gap number n := by
  obtain ⟨spaces, behind, tail, parts, all, number, blank⟩ := scanCommand_parts scanned
  obtain ⟨gap, gapSplit, gapAll⟩ := exists_spaces behind
  rw [gapSplit] at parts
  exact ⟨spaces, gap, skipSpaces behind, parts, all, gapAll, skipSpaces_skipSpaces behind,
    tail, number, blank⟩

section Layout

variable {command spaces gap number : Text} {n : Int}

theorem Layout.atoi_append (layout : Layout command spaces gap number n) {after : Text}
    (all : ∀ char ∈ after, isSpace char = true) : atoi (after ++ number) = n := by
  obtain ⟨tail, scanned, -⟩ := layout.scanned
  rw [← atoi_skipSpaces, skipSpaces_append all, layout.start]
  apply atoi_of_scanInt
  rw [scanInt, layout.start]
  exact scanned

/-- Behind a blank of a command stands no number, unless the blank is one of those
between the word and the number. -/
theorem Layout.blank_cases (layout : Layout command spaces gap number n) {front rest : Text}
    (split : command = front ++ 32 :: rest) :
    atoi rest = 0 ∨ ∃ before after, gap = before ++ 32 :: after ∧
      front = spaces ++ (markWord ++ before) ∧ rest = after ++ number := by
  have whole := layout.parts.symm.trans split
  rcases List.append_eq_append_iff.mp whole with ⟨inner, front, later⟩ | ⟨inner, inside, later⟩
  · -- the blank stands behind the leading spaces, and so behind the word
    obtain ⟨middle, innerIs, afterWord⟩ := behind_of_not_mem (by decide) later
    rcases List.append_eq_append_iff.mp afterWord with ⟨deep, _, deeper⟩ | ⟨deep, inGap, deeper⟩
    · -- in the number or behind it
      obtain ⟨tail, scanned, blank⟩ := layout.scanned
      obtain ⟨digits, digitsSplit, signsOrDigits⟩ := scanNumber_split scanned
      have noBlank : 32 ∉ digits := fun member => absurd (signsOrDigits 32 member) (by decide)
      obtain ⟨last, -, afterDigits⟩ := behind_of_not_mem noBlank (digitsSplit.symm.trans deeper)
      have allTail := List.dropWhile_eq_nil_iff.mp blank
      have allRest : ∀ char ∈ rest, isSpace char = true := by
        intro char member
        refine allTail char ?_
        rw [afterDigits]
        exact List.mem_append_right _ (List.mem_cons_of_mem _ member)
      exact Or.inl (atoi_of_blank (skipSpaces_of_all allRest))
    · -- in the gap in front of the number
      cases deep with
      | nil =>
          have head := skipSpaces_head (layout.start.trans deeper.symm)
          exact absurd head (by decide)
      | cons char more =>
          obtain ⟨rfl, same⟩ := List.cons.inj deeper
          refine Or.inr ⟨middle, more, inGap, ?_, same⟩
          rw [front, innerIs]
  · -- the blank is a leading space, and what is behind it starts with the word
    left
    have word : ∀ more : Text, skipSpaces (markWord ++ more) = markWord ++ more := fun _ => rfl
    cases inner with
    | nil => exact absurd (List.cons.inj later).1 (by decide)
    | cons char more =>
        have same : rest = more ++ (markWord ++ (gap ++ number)) := (List.cons.inj later).2
        have moreAll : ∀ char ∈ more, isSpace char = true := by
          intro other member
          refine layout.spaces other ?_
          rw [inside]
          exact List.mem_append_right _ (List.mem_cons_of_mem _ member)
        rw [same, atoi, scanInt, skipSpaces_append moreAll, word]
        rfl

end Layout

theorem atoi_behind_blank {command front rest : Text} {n : Int}
    (scanned : scanCommand command = some (markWord, n))
    (split : command = front ++ 32 :: rest) : atoi rest = 0 ∨ atoi rest = n := by
  obtain ⟨spaces, gap, number, layout⟩ := exists_layout scanned
  rcases layout.blank_cases split with none | ⟨before, after, gapIs, -, restIs⟩
  · exact Or.inl none
  · right
    rw [restIs]
    refine layout.atoi_append fun char member => layout.gap char ?_
    rw [gapIs]
    exact List.mem_append_right _ (List.mem_cons_of_mem _ member)

theorem atoi_second_token {command token rest second later : Text} {n : Int}
    (scanned : scanCommand command = some (markWord, n))
    (first : strtok command = some (token, rest))
    (next : strtok rest = some (second, later)) : atoi second = 0 ∨ atoi second = n := by
  have found : atoi rest = 0 ∨ atoi rest = n := by
    obtain rfl | ⟨front, split⟩ := strtok_rest first
    · exact Or.inl rfl
    · exact atoi_behind_blank scanned split
  rcases atoi_of_strtok next with none | some_
  · exact Or.inl none
  · rw [some_]
    exact found

/-! ## What each side makes of a command -/

structure Played (command : Text) (before after : TicTacToe) : Prop where
  text : cText command = command
  short : command.length ≤ 15
  move : ∃ n, scanCommand command = some (markWord, n) ∧
    tttMakeMove before n = (true, after)

theorem cText_command (line : Line) : cText line.command = line.command := by
  rw [cText, List.takeWhile_eq_self_iff]
  intro char member
  have inText := (List.takeWhile_prefix (· != 10)).subset member
  exact ne_zero_of_mem_cText inText

theorem length_command_le (line : Line) : line.command.length ≤ 15 :=
  Nat.le_trans (List.takeWhile_prefix (· != 10)).length_le (length_text_le line)

theorem move_of_sends {t t' : TicTacToe} {n : Int} {command sent : Text} {exits : Bool}
    (sends : (if (tttMakeMove t n).1 then
        Attempt.sends command (tttMakeMove t n).2 (decided (tttMakeMove t n).2)
      else .again) = .sends sent t' exits) :
    sent = command ∧ tttMakeMove t n = (true, t') ∧ exits = decided t' := by
  cases result : tttMakeMove t n with
  | mk made moved =>
      rw [result] at sends
      cases made with
      | false => cases sends
      | true =>
          cases sends
          exact ⟨rfl, rfl, rfl⟩

theorem inputParser_sends {t t' : TicTacToe} {line : Line} {command : Text} {exits : Bool}
    (sends : inputParser t line.command = .sends command t' exits) :
    Played command t t' ∧ exits = decided t' := by
  simp only [inputParser] at sends
  cases scanned : scanCommand line.command with
  | none => simp only [scanned, reduceCtorEq] at sends
  | some parts =>
      obtain ⟨cmd, n⟩ := parts
      simp only [scanned] at sends
      split at sends
      · rename_i word
        subst word
        obtain ⟨rfl, move, ends⟩ := move_of_sends sends
        exact ⟨⟨cText_command line, length_command_le line, n, scanned, move⟩, ends⟩
      · cases sends

theorem serverHandleServerMove_sends {t t' : TicTacToe} {line : Line} {command : Text}
    {exits : Bool}
    (marks : ∀ cmd n, scanCommand line.command = some (cmd, n) →
      (tttMakeMove t n).1 = true → cmd = markWord)
    (sends : serverHandleServerMove t line.command = .sends command t' exits) :
    Played command t t' ∧ exits = decided t' := by
  simp only [serverHandleServerMove] at sends
  cases scanned : scanCommand line.command with
  | none => simp only [scanned, reduceCtorEq] at sends
  | some parts =>
      obtain ⟨cmd, n⟩ := parts
      simp only [scanned] at sends
      obtain ⟨rfl, move, ends⟩ := move_of_sends sends
      have word := marks cmd n scanned (by rw [move])
      exact ⟨⟨cText_command line, length_command_le line, n, word ▸ scanned, move⟩, ends⟩

theorem handleMessage_plays {t played t' : TicTacToe} {command buffer : Text}
    (sent : Played command t played) (plays : handleMessage t command = .plays t' buffer) :
    t' = played := by
  obtain ⟨text, _, n, scanned, move⟩ := sent
  rw [handleMessage, text] at plays
  cases first : strtok command with
  | none => simp only [first, reduceCtorEq] at plays
  | some tokens =>
      obtain ⟨token, rest⟩ := tokens
      simp only [first] at plays
      split at plays
      · cases plays
      · cases next : strtok rest with
        | none => simp only [next, reduceCtorEq] at plays
        | some tokens =>
            obtain ⟨second, later⟩ := tokens
            simp only [next] at plays
            rcases atoi_second_token scanned first next with zero | same
            · rw [zero] at plays
              simp [tttMakeMove] at plays
            · rw [same, move] at plays
              simp only [if_true, Handling.plays.injEq] at plays
              exact plays.1.symm

theorem clientReceiveServerResponse_played {t t' : TicTacToe} {command : Text}
    (sent : Played command t t') :
    clientReceiveServerResponse t (gameState command) = t' := by
  obtain ⟨text, short, n, scanned, move⟩ := sent
  have received := cText_gameState text (by omega)
  rw [clientReceiveServerResponse, received, scanned]
  simp only [if_true, move]

/-! ## The boards in step -/

/-- Where client and server can be: at rest, with one of them to move, with one
message in flight that says the move by which they differ, or with a client that waits
for a server that has not understood it. -/
inductive InStep : Game → Prop where
  | idle (t : TicTacToe) : InStep ⟨t, .prompting, t, .receiving, [], []⟩
  | toServer {t t' : TicTacToe} {command : Text} (sent : Played command t t')
      (open_ : decided t' = false) :
      InStep ⟨t', .waiting, t, .receiving, [command], []⟩
  | answering (t : TicTacToe) : InStep ⟨t, .waiting, t, .prompting, [], []⟩
  | toClient {t t' : TicTacToe} {command : Text} (sent : Played command t t') :
      InStep ⟨t, .waiting, t', if decided t' then .exited else .receiving, [],
        [gameState command]⟩
  | stuck {t t' : TicTacToe} {phase : ServerPhase} (silent : phase ≠ .prompting) :
      InStep ⟨t, .waiting, t', phase, [], []⟩
  | exited {game : Game} (gone : game.clientPhase = .exited) : InStep game

/-- Whenever the client prompts and nothing is in flight, the structures agree. -/
def Agree (game : Game) : Prop :=
  game.clientPhase = .prompting → game.toServer = [] → game.toClient = [] →
    game.client = game.server

/-- Every line that the server accepts from its operator starts with `MARK`. -/
def OperatorMarks (game : Game) : Event → Prop
  | .operatorTypes line => ∀ cmd n, scanCommand line.command = some (cmd, n) →
      (tttMakeMove game.server n).1 = true → cmd = markWord
  | _ => True

theorem InStep.agree {game : Game} (inStep : InStep game) : Agree game := by
  intro prompting _ _
  cases inStep with
  | idle t => rfl
  | exited gone => rw [gone] at prompting; cases prompting
  | _ => cases prompting

/-! ## Steps -/

theorem step_preserves_exited {game next : Game} {event : Event}
    (exited : game.clientPhase = .exited) (taken : step game event = some next) :
    next.clientPhase = .exited := by
  cases event with
  | clientTypes line => simp [step, exited] at taken
  | clientReadFails => simp [step, exited] at taken
  | clientTimesOut => simp [step, exited] at taken
  | clientReceives => simp [step, exited] at taken
  | serverReceives =>
      simp only [step] at taken
      split at taken
      · split at taken
        · rw [← Option.some.inj taken, Game.serverReceives]
          split
          · exact exited
          · exact exited
          · exact exited
          · split <;> exact exited
        · rw [← Option.some.inj taken]
          exact exited
      · cases taken
  | operatorTypes line =>
      simp only [step] at taken
      split at taken
      · rw [← Option.some.inj taken, Game.operatorTypes]
        split <;> exact exited
      · cases taken
  | operatorReadFails =>
      simp only [step] at taken
      split at taken
      · rw [← Option.some.inj taken]
        exact exited
      · cases taken

theorem inStep_clientTypes (t : TicTacToe) (line : Line) :
    InStep (Game.clientTypes ⟨t, .prompting, t, .receiving, [], []⟩ line) := by
  rw [Game.clientTypes]
  cases result : inputParser t line.command with
  | again => exact .idle t
  | sends command t' exits =>
      obtain ⟨played, exitsIff⟩ := inputParser_sends result
      cases exits with
      | true => exact .exited rfl
      | false => exact .toServer played exitsIff.symm

theorem inStep_serverReceives {t t' : TicTacToe} {command : Text}
    (sent : Played command t t') (open_ : decided t' = false) :
    InStep (Game.serverReceives ⟨t', .waiting, t, .receiving, [command], []⟩ command []) := by
  rw [Game.serverReceives]
  cases result : handleMessage t command with
  | crashes => exact .stuck (fun prompting => nomatch prompting)
  | timesOut => exact .stuck (fun prompting => nomatch prompting)
  | ignores => exact .stuck (fun prompting => nomatch prompting)
  | plays played buffer =>
      have same := handleMessage_plays sent result
      subst same
      simp only [open_, Bool.false_eq_true, if_false]
      exact .answering played

theorem inStep_operatorTypes {t : TicTacToe} {line : Line}
    (marks : ∀ cmd n, scanCommand line.command = some (cmd, n) →
      (tttMakeMove t n).1 = true → cmd = markWord) :
    InStep (Game.operatorTypes ⟨t, .waiting, t, .prompting, [], []⟩ line) := by
  rw [Game.operatorTypes]
  cases result : serverHandleServerMove t line.command with
  | again => exact .answering t
  | sends command t' exits =>
      obtain ⟨played, exitsIff⟩ := serverHandleServerMove_sends marks result
      subst exitsIff
      exact .toClient played

theorem inStep_clientReceives {t t' : TicTacToe} {command : Text}
    (sent : Played command t t') :
    InStep (Game.clientReceives ⟨t, .waiting, t',
        if decided t' then .exited else .receiving, [], [gameState command]⟩
      (gameState command) []) := by
  rw [Game.clientReceives, clientReceiveServerResponse_played sent]
  cases result : decided t' with
  | true => exact .exited rfl
  | false => exact .idle t'

theorem step_preserves_inStep {game next : Game} {event : Event} (inStep : InStep game)
    (marks : OperatorMarks game event) (taken : step game event = some next) :
    InStep next := by
  cases inStep with
  | idle t =>
      cases event with
      | clientTypes line =>
          obtain rfl := Option.some.inj taken
          exact inStep_clientTypes t line
      | clientReadFails =>
          obtain rfl := Option.some.inj taken
          exact .idle t
      | clientTimesOut =>
          obtain rfl := Option.some.inj taken
          exact .exited rfl
      | _ => cases taken
  | @toServer t t' command sent open_ =>
      cases event with
      | serverReceives =>
          obtain rfl := Option.some.inj taken
          exact inStep_serverReceives sent open_
      | _ => cases taken
  | answering t =>
      cases event with
      | operatorTypes line =>
          obtain rfl := Option.some.inj taken
          exact inStep_operatorTypes marks
      | operatorReadFails =>
          obtain rfl := Option.some.inj taken
          exact .answering t
      | _ => cases taken
  | @toClient t t' command sent =>
      cases event with
      | clientReceives =>
          obtain rfl := Option.some.inj taken
          exact inStep_clientReceives sent
      | serverReceives =>
          cases result : decided t' <;> simp [step, result] at taken
      | operatorTypes line => cases result : decided t' <;> simp [step, result] at taken
      | operatorReadFails => cases result : decided t' <;> simp [step, result] at taken
      | _ => cases taken
  | @stuck t t' phase silent =>
      cases phase with
      | prompting => exact absurd rfl silent
      | receiving => cases event <;> cases taken
      | exited =>
          cases event with
          | clientReceives =>
              obtain rfl := Option.some.inj taken
              exact .exited rfl
          | _ => cases taken
  | exited gone => exact .exited (step_preserves_exited gone taken)

/-- In every run in which the lines that the server accepts from its operator start with
`MARK`, the boards agree whenever the client prompts and nothing is in flight. -/
theorem run_agrees {events : List Event} {game : Game}
    (marks : Meets step OperatorMarks start events) (reached : run step start events = some game) :
    Agree game :=
  (run_preserves (fun _ _ _ inStep allowed taken =>
    step_preserves_inStep inStep allowed taken) (.idle tttNew) marks reached).agree

/-! ## Two short games -/

def lowerCaseOne : Line where
  chars := [109, 97, 114, 107, 32, 49, 10]
  fits := by decide
  ends := by decide

def oneRound (answer : Line) : List Event :=
  [.clientTypes markFive, .serverReceives, .operatorTypes answer, .clientReceives]

def afterRound (answer : Line) : Game := runEnd step start (oneRound answer)

theorem markOne_agrees : Agree (afterRound markOne) := by
  have marks : Meets step OperatorMarks start (oneRound markOne) := by
    refine ⟨trivial, fun _ _ => ⟨trivial, fun _ _ => ⟨?_, fun _ _ => ⟨trivial, ?_⟩⟩⟩⟩
    · intro cmd n scanned _
      have word : scanCommand markOne.command = some (markWord, 1) := by decide
      rw [word] at scanned
      exact (congrArg Prod.fst (Option.some.inj scanned)).symm
    · exact fun _ _ => trivial
  exact run_agrees marks (run_eq_runEnd (by decide +kernel))

/-- The server plays the lower-case line, the client does not. -/
theorem lowerCaseOne_not_agrees :
    run step start (oneRound lowerCaseOne) = some (afterRound lowerCaseOne) ∧
      ¬ Agree (afterRound lowerCaseOne) := by
  refine ⟨run_eq_runEnd (by decide +kernel), ?_⟩
  intro agree
  have same := agree (by decide +kernel) (by decide +kernel) (by decide +kernel)
  have cell := congrArg (fun t => t.board 0 0) same
  exact absurd cell (by decide +kernel)

end Cmput313.Ttt.Part1
