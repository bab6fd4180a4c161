import Mathlib.Tactic.Common

/-!
# Programs over a state that return or stop with a fault

Weakest-precondition rules for `EStateM`, and two judgements built on them:
`Keeps`, for an invariant that a program preserves however it ends, and
`RefinesAt`, for a program that computes, on an abstraction of its state, a
given partial function.  Nothing here names a particular state or fault.
-/

set_option autoImplicit false

namespace Cmput313.Program

variable {ε σ τ α β : Type}

/-- The state a program leaves behind, whether it returns or stops. -/
def finalState (program : EStateM ε σ α) (state : σ) : σ :=
  match program state with
  | .ok _ next => next
  | .error _ next => next

def returns (program : EStateM ε σ α) (state : σ) : Bool :=
  match program state with
  | .ok _ _ => true
  | .error _ _ => false

theorem eq_ok_of_returns {program : EStateM ε σ Unit} {state : σ}
    (ended : returns program state = true) :
    program state = .ok () (finalState program state) := by
  unfold returns at ended
  unfold finalState
  cases result : program state with
  | ok value next => rfl
  | error fault next => simp [result] at ended

def returnedValue (program : EStateM ε σ α) (state : σ) : Option α :=
  match program state with
  | .ok value _ => some value
  | .error _ _ => none

theorem eq_ok_of_returnedValue {program : EStateM ε σ α} {state : σ} {value : α}
    (ended : returnedValue program state = some value) :
    program state = .ok value (finalState program state) := by
  unfold returnedValue at ended
  unfold finalState
  cases result : program state with
  | ok got next => simpa [result] using ended
  | error fault next => simp [result] at ended

/-- From `state` the program returns and satisfies `returned`, or stops and
satisfies `stopped`. -/
def Ends (program : EStateM ε σ α) (state : σ)
    (returned : α → σ → Prop) (stopped : ε → σ → Prop) : Prop :=
  match program state with
  | .ok value next => returned value next
  | .error fault next => stopped fault next

section Ends

variable (state : σ) (returned : α → σ → Prop) (stopped : ε → σ → Prop)

@[simp] theorem ends_pure (value : α) :
    Ends (pure value) state returned stopped ↔ returned value state := Iff.rfl

@[simp] theorem ends_throw (fault : ε) :
    Ends (throw fault : EStateM ε σ α) state returned stopped ↔
      stopped fault state := Iff.rfl

@[simp] theorem ends_get (got : σ → σ → Prop) :
    Ends (get : EStateM ε σ σ) state got stopped ↔ got state state := Iff.rfl

@[simp] theorem ends_modify (change : σ → σ) (done : PUnit → σ → Prop) :
    Ends (modify change : EStateM ε σ PUnit) state done stopped ↔
      done ⟨⟩ (change state) := Iff.rfl

@[simp] theorem ends_bind (first : EStateM ε σ β)
    (rest : β → EStateM ε σ α) :
    Ends (first >>= rest) state returned stopped ↔
      Ends first state
        (fun value next => Ends (rest value) next returned stopped) stopped := by
  simp only [Ends, bind, EStateM.bind]
  cases first state <;> rfl

@[simp] theorem ends_ite (condition : Prop) [Decidable condition]
    (yes no : EStateM ε σ α) :
    Ends (if condition then yes else no) state returned stopped ↔
      if condition then Ends yes state returned stopped
      else Ends no state returned stopped := by
  split <;> rfl

end Ends

theorem Ends.mono {program : EStateM ε σ α} {state : σ}
    {returned returned' : α → σ → Prop} {stopped stopped' : ε → σ → Prop}
    (ends : Ends program state returned stopped)
    (onReturn : ∀ value next, returned value next → returned' value next)
    (onStop : ∀ fault next, stopped fault next → stopped' fault next) :
    Ends program state returned' stopped' := by
  unfold Ends at ends ⊢
  cases result : program state with
  | ok value next => exact onReturn value next (by simpa [result] using ends)
  | error fault next => exact onStop fault next (by simpa [result] using ends)

theorem ends_true (program : EStateM ε σ α) (state : σ) :
    Ends program state (fun _ _ => True) (fun _ _ => True) := by
  unfold Ends
  cases program state <;> trivial

theorem Ends.and {program : EStateM ε σ α} {state : σ}
    {returned returned' : α → σ → Prop} {stopped stopped' : ε → σ → Prop}
    (left : Ends program state returned stopped)
    (right : Ends program state returned' stopped') :
    Ends program state (fun value next => returned value next ∧ returned' value next)
      (fun fault next => stopped fault next ∧ stopped' fault next) := by
  unfold Ends at left right ⊢
  cases result : program state with
  | ok value next => simp_all
  | error fault next => simp_all

theorem ends_iff_finalState {program : EStateM ε σ α} {state : σ} {good : σ → Prop} :
    Ends program state (fun _ => good) (fun _ => good) ↔
      good (finalState program state) := by
  unfold Ends finalState
  cases program state <;> rfl

theorem Ends.finalState {program : EStateM ε σ α} {state : σ} {good : σ → Prop}
    (ends : Ends program state (fun _ => good) (fun _ => good)) :
    good (finalState program state) :=
  ends_iff_finalState.mp ends

theorem Ends.of_ok {program : EStateM ε σ α} {state next : σ} {value : α}
    {returned : α → σ → Prop} {stopped : ε → σ → Prop}
    (ends : Ends program state returned stopped)
    (run : program state = .ok value next) : returned value next := by
  simpa [Ends, run] using ends

theorem Ends.of_error {program : EStateM ε σ α} {state next : σ} {fault : ε}
    {returned : α → σ → Prop} {stopped : ε → σ → Prop}
    (ends : Ends program state returned stopped)
    (run : program state = .error fault next) : stopped fault next := by
  simpa [Ends, run] using ends

theorem Ends.exists_ok {program : EStateM ε σ α} {state : σ} {returned : α → σ → Prop}
    (ends : Ends program state returned fun _ _ => False) :
    ∃ value next, program state = .ok value next ∧ returned value next := by
  unfold Ends at ends
  cases result : program state with
  | ok value next => exact ⟨value, next, rfl, by simpa only [result] using ends⟩
  | error fault next => simp only [result] at ends

theorem ends_iff_of_ok {program : EStateM ε σ α} {state next : σ} {value : α}
    {returned : α → σ → Prop} {stopped : ε → σ → Prop}
    (run : program state = .ok value next) :
    Ends program state returned stopped ↔ returned value next := by
  simp only [Ends, run]

theorem ends_iff_of_error {program : EStateM ε σ α} {state next : σ} {fault : ε}
    {returned : α → σ → Prop} {stopped : ε → σ → Prop}
    (run : program state = .error fault next) :
    Ends program state returned stopped ↔ stopped fault next := by
  simp only [Ends, run]

theorem get_bind_apply (rest : σ → EStateM ε σ α) (state : σ) :
    ((get : EStateM ε σ σ) >>= rest) state = rest state state := rfl

theorem ok_of_bind_ok {first : EStateM ε σ β} {rest : β → EStateM ε σ α}
    {state next : σ} {value : α} (run : (first >>= rest) state = .ok value next) :
    ∃ middle reached, first state = .ok middle reached ∧
      rest middle reached = .ok value next := by
  simp only [bind, EStateM.bind] at run
  cases result : first state with
  | ok middle reached => exact ⟨middle, reached, rfl, by simpa only [result] using run⟩
  | error fault reached => simp only [result, reduceCtorEq] at run

theorem forM_append_of_ok {body : β → EStateM ε σ PUnit} {item : β} {back : List β}
    {middle : σ} :
    ∀ {front : List β} {state : σ}, front.forM body state = .ok ⟨⟩ middle →
      (front ++ item :: back).forM body state = (body item >>= fun _ => back.forM body) middle
  | [], state, run => by
      cases run
      rfl
  | first :: front, state, run => by
      obtain ⟨value, next, head, rest⟩ := ok_of_bind_ok run
      have later := @forM_append_of_ok body item back middle front next rest
      show (body first >>= fun _ => (front ++ item :: back).forM body) state = _
      rw [← later]
      simp only [bind, EStateM.bind, head]

theorem result_eq_of_ends_iff {program other : EStateM ε σ α} {state otherState : σ}
    (same : ∀ (returned : α → σ → Prop) (stopped : ε → σ → Prop),
      Ends program state returned stopped ↔ Ends other otherState returned stopped) :
    program state = other otherState := by
  have own : Ends other otherState
      (fun value next => other otherState = .ok value next)
      (fun fault next => other otherState = .error fault next) := by
    unfold Ends
    cases other otherState <;> rfl
  have moved := (same _ _).mpr own
  unfold Ends at moved
  cases result : program state with
  | ok value next => exact (by simpa [result] using moved : _ = _).symm
  | error fault next => exact (by simpa [result] using moved : _ = _).symm

/-! ## Invariants -/

/-- From every state with the invariant the program ends in one with it, whether
it returns or stops; a value it returns is `good`, and where it stops the fault
is `explained` by the state it stops in. -/
def Keeps (invariant : σ → Prop) (explained : ε → σ → Prop)
    (program : EStateM ε σ α) (good : α → Prop) : Prop :=
  ∀ state, invariant state →
    Ends program state (fun value next => invariant next ∧ good value)
      (fun fault next => invariant next ∧ explained fault next)

section Keeps

variable {invariant : σ → Prop} {explained : ε → σ → Prop} {good : α → Prop}

theorem Keeps.finalState {program : EStateM ε σ α}
    (keeps : Keeps invariant explained program good) {state : σ}
    (start : invariant state) : invariant (finalState program state) :=
  ((keeps state start).mono (fun _ _ both => both.1)
    (fun _ _ both => both.1)).finalState

theorem Keeps.of_ok {program : EStateM ε σ α} {state next : σ} {value : α}
    (keeps : Keeps invariant explained program good) (start : invariant state)
    (run : program state = .ok value next) : invariant next ∧ good value :=
  (keeps state start).of_ok run

theorem Keeps.of_error {program : EStateM ε σ α} {state next : σ} {fault : ε}
    (keeps : Keeps invariant explained program good) (start : invariant state)
    (run : program state = .error fault next) :
    invariant next ∧ explained fault next :=
  (keeps state start).of_error run

theorem Keeps.weaken {program : EStateM ε σ α} {weaker : α → Prop}
    (keeps : Keeps invariant explained program good)
    (implied : ∀ value, good value → weaker value) :
    Keeps invariant explained program weaker :=
  fun state start => (keeps state start).mono
    (fun value _ both => ⟨both.1, implied value both.2⟩) (fun _ _ kept => kept)

theorem Keeps.and {other : σ → Prop} {otherExplained : ε → σ → Prop}
    {program : EStateM ε σ α} {otherGood : α → Prop}
    (left : Keeps invariant explained program good)
    (right : Keeps other otherExplained program otherGood) :
    Keeps (fun state => invariant state ∧ other state) explained program
      (fun value => good value ∧ otherGood value) :=
  fun state start => ((left state start.1).and (right state start.2)).mono
    (fun _ _ both => ⟨⟨both.1.1, both.2.1⟩, both.1.2, both.2.2⟩)
    (fun _ _ both => ⟨⟨both.1.1, both.2.1⟩, both.1.2⟩)

theorem keeps_pure {value : α} (holds : good value) :
    Keeps invariant explained (pure value) good :=
  fun _ start => ⟨start, holds⟩

theorem keeps_throw {fault : ε} (why : ∀ state, explained fault state) :
    Keeps invariant explained (throw fault : EStateM ε σ α) good :=
  fun state start => ⟨start, why state⟩

theorem keeps_get : Keeps invariant explained (get : EStateM ε σ σ) invariant :=
  fun _ start => ⟨start, start⟩

theorem keeps_modify {change : σ → σ} {done : PUnit → Prop} (holds : done ⟨⟩)
    (kept : ∀ state, invariant state → invariant (change state)) :
    Keeps invariant explained (modify change : EStateM ε σ PUnit) done :=
  fun state start => ⟨kept state start, holds⟩

theorem keeps_bind {first : EStateM ε σ β} {rest : β → EStateM ε σ α}
    {middle : β → Prop} (firstKeeps : Keeps invariant explained first middle)
    (restKeeps : ∀ value, middle value →
      Keeps invariant explained (rest value) good) :
    Keeps invariant explained (first >>= rest) good := by
  intro state start
  rw [ends_bind]
  refine (firstKeeps state start).mono ?_ (fun _ _ kept => kept)
  rintro value next ⟨kept, holds⟩
  exact restKeeps value holds next kept

theorem keeps_then {first : EStateM ε σ β} {rest : β → EStateM ε σ α}
    (firstKeeps : Keeps invariant explained first fun _ => True)
    (restKeeps : ∀ value, Keeps invariant explained (rest value) good) :
    Keeps invariant explained (first >>= rest) good :=
  keeps_bind firstKeeps fun value _ => restKeeps value

theorem keeps_ite {condition : Prop} [Decidable condition]
    {yes no : EStateM ε σ α}
    (yesKeeps : condition → Keeps invariant explained yes good)
    (noKeeps : ¬ condition → Keeps invariant explained no good) :
    Keeps invariant explained (if condition then yes else no) good := by
  split
  · rename_i holds; exact yesKeeps holds
  · rename_i fails; exact noKeeps fails

theorem keeps_forM {items : List β} {body : β → EStateM ε σ PUnit}
    {done : PUnit → Prop} (holds : done ⟨⟩)
    (bodyKeeps : ∀ item ∈ items,
      Keeps invariant explained (body item) fun _ => True) :
    Keeps invariant explained (items.forM body) done := by
  induction items with
  | nil => exact keeps_pure holds
  | cons item rest inductionHypothesis =>
      refine keeps_bind (bodyKeeps item (List.mem_cons_self ..)) fun _ _ => ?_
      exact inductionHypothesis
        (fun other member => bodyKeeps other (List.mem_cons_of_mem _ member))

end Keeps

/-! ## Programs that compute a partial function on an abstraction -/

/-- Started at `state`, the program returns exactly when `function` is defined
at the abstraction of `state`; it then ends in a good state whose abstraction is
the function's value. -/
def RefinesAt (abstraction : σ → τ) (good : σ → Prop)
    (program : EStateM ε σ α) (function : τ → Option τ) (state : σ) : Prop :=
  Ends program state
    (fun _ next => good next ∧ function (abstraction state) = some (abstraction next))
    (fun _ _ => function (abstraction state) = none)

section RefinesAt

variable {abstraction : σ → τ} {good : σ → Prop}

theorem RefinesAt.bind {first : EStateM ε σ β} {rest : β → EStateM ε σ α}
    {head tail : τ → Option τ} {state : σ}
    (firstRefines : RefinesAt abstraction good first head state)
    (restRefines : ∀ value next, first state = .ok value next → good next →
      RefinesAt abstraction good (rest value) tail next) :
    RefinesAt abstraction good (first >>= rest)
      (fun point => (head point).bind tail) state := by
  unfold RefinesAt at firstRefines ⊢
  rw [ends_bind]
  unfold Ends at firstRefines ⊢
  cases run : first state with
  | error fault next =>
      simp only [run] at firstRefines
      simp [firstRefines]
  | ok value next =>
      simp only [run] at firstRefines
      obtain ⟨nextGood, headRun⟩ := firstRefines
      simp only [headRun, Option.bind_some]
      exact restRefines value next run nextGood

theorem RefinesAt.forM {body : β → EStateM ε σ PUnit} {action : τ → β → Option τ} :
    ∀ (items : List β) (state : σ), good state →
      (∀ item ∈ items, ∀ state, good state →
        RefinesAt abstraction good (body item) (fun point => action point item) state) →
      RefinesAt abstraction good (items.forM body)
        (fun point => items.foldlM action point) state := by
  intro items
  induction items with
  | nil =>
      intro state stateGood _
      exact ⟨stateGood, rfl⟩
  | cons item rest inductionHypothesis =>
      intro state stateGood bodies
      have later : RefinesAt abstraction good (body item >>= fun _ => rest.forM body)
          (fun point => (action point item).bind fun point => rest.foldlM action point)
          state :=
        RefinesAt.bind (bodies item (List.mem_cons_self ..) state stateGood)
          fun _ next _ nextGood => inductionHypothesis next nextGood
            fun other member => bodies other (List.mem_cons_of_mem _ member)
      simpa [List.foldlM_cons] using later

end RefinesAt

end Cmput313.Program
