import Cmput313.Lib.Program

/-!
# Programs with a log beside their state

To say what a program does on its way, a second one keeps a log of it.  Without the
log it is the first one again.
-/

set_option autoImplicit false

namespace Cmput313.Program

variable {ε σ ω α β : Type}

/-- The program, with a log beside its state that it leaves alone. -/
def beside (program : EStateM ε σ α) : EStateM ε (σ × ω) α := fun both =>
  match program both.1 with
  | .ok value next => .ok value (next, both.2)
  | .error fault next => .error fault (next, both.2)

/-- What is logged may depend on the state. -/
def logs (entry : σ → ω → ω) : EStateM ε (σ × ω) PUnit :=
  modify fun both => (both.1, entry both.1 both.2)

def withoutLog : EStateM.Result ε (σ × ω) α → EStateM.Result ε σ α
  | .ok value next => .ok value next.1
  | .error fault next => .error fault next.1

/-- Without its log the one program is the other. -/
def Erases (logged : EStateM ε (σ × ω) α) (plain : EStateM ε σ α) : Prop :=
  ∀ state log, withoutLog (logged (state, log)) = plain state

theorem erases_pure (value : α) :
    Erases (pure value : EStateM ε (σ × ω) α) (pure value) := fun _ _ => rfl

theorem erases_beside (program : EStateM ε σ α) :
    Erases (beside program : EStateM ε (σ × ω) α) program := by
  intro state log
  rw [beside]
  cases program state with
  | ok value next => rfl
  | error fault next => rfl

theorem erases_bind {first : EStateM ε (σ × ω) β} {plainFirst : EStateM ε σ β}
    {rest : β → EStateM ε (σ × ω) α} {plainRest : β → EStateM ε σ α}
    (firstErases : Erases first plainFirst)
    (restErases : ∀ value, Erases (rest value) (plainRest value)) :
    Erases (first >>= rest) (plainFirst >>= plainRest) := by
  intro state log
  have start := firstErases state log
  simp only [bind, EStateM.bind]
  cases result : first (state, log) with
  | ok value next =>
      rw [result, withoutLog] at start
      rw [← start]
      exact restErases value next.1 next.2
  | error fault next =>
      rw [result, withoutLog] at start
      rw [← start]
      rfl

theorem erases_logs_then {entry : σ → ω → ω} {rest : EStateM ε (σ × ω) α}
    {plain : EStateM ε σ α} (restErases : Erases rest plain) :
    Erases (logs entry >>= fun _ => rest) plain :=
  fun state log => restErases state (entry state log)

theorem erases_ite {condition : Prop} [Decidable condition]
    {yes no : EStateM ε (σ × ω) α} {plainYes plainNo : EStateM ε σ α}
    (yesErases : Erases yes plainYes) (noErases : Erases no plainNo) :
    Erases (if condition then yes else no) (if condition then plainYes else plainNo) := by
  split
  · exact yesErases
  · exact noErases

section Ends

variable (state : σ) (log : ω) (stopped : ε → σ × ω → Prop)

@[simp] theorem ends_beside (program : EStateM ε σ α) (returned : α → σ × ω → Prop) :
    Ends (beside program) (state, log) returned stopped ↔
      Ends program state (fun value next => returned value (next, log))
        (fun fault next => stopped fault (next, log)) := by
  simp only [Ends, beside]
  cases program state <;> rfl

@[simp] theorem ends_logs (entry : σ → ω → ω) (done : PUnit → σ × ω → Prop) :
    Ends (logs entry) (state, log) done stopped ↔ done ⟨⟩ (state, entry state log) := Iff.rfl

end Ends

theorem ends_const (program : EStateM ε σ α) (state : σ) (property : Prop) :
    Ends program state (fun _ _ => property) (fun _ _ => property) ↔ property := by
  unfold Ends
  cases program state <;> rfl

end Cmput313.Program
