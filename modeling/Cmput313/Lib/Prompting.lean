import Mathlib.Tactic.Common

/-!
# Prompting until a line is accepted

A loop that reads a line at a time until it accepts one.  Behind the last line every
read fails, and the loop goes on all the same.
-/

set_option autoImplicit false

namespace Cmput313.Prompting

variable {α β : Type} (accept : α → Option β)

/-- What the loop accepts in at most `reads` reads, and the lines behind it. -/
def prompt : Nat → List α → Option (β × List α)
  | 0, _ => none
  | reads + 1, [] => prompt reads []
  | reads + 1, line :: rest =>
      match accept line with
      | some result => some (result, rest)
      | none => prompt reads rest

def Finishes (lines : List α) : Prop := ∃ reads, (prompt accept reads lines).isSome = true

variable {accept}

theorem prompt_nil (reads : Nat) : prompt accept reads [] = none := by
  induction reads with
  | zero => rfl
  | succ reads inductionHypothesis => exact inductionHypothesis

theorem exists_accepted {reads : Nat} : ∀ {lines : List α},
    (prompt accept reads lines).isSome = true → ∃ line ∈ lines, (accept line).isSome = true := by
  induction reads with
  | zero => exact fun ends => nomatch ends
  | succ reads inductionHypothesis =>
      intro lines ends
      cases lines with
      | nil =>
          rw [prompt_nil] at ends
          cases ends
      | cons line rest =>
          cases accepted : accept line with
          | some result =>
              exact ⟨line, List.mem_cons_self .., by rw [accepted]; rfl⟩
          | none =>
              simp only [prompt, accepted] at ends
              obtain ⟨other, member, found⟩ := inductionHypothesis ends
              exact ⟨other, List.mem_cons_of_mem _ member, found⟩

theorem prompt_of_accepted {lines : List α}
    (some_ : ∃ line ∈ lines, (accept line).isSome = true) :
    (prompt accept lines.length lines).isSome = true := by
  induction lines with
  | nil =>
      obtain ⟨line, member, -⟩ := some_
      cases member
  | cons line rest inductionHypothesis =>
      rw [List.length_cons, prompt]
      cases accepted : accept line with
      | some result => rfl
      | none =>
          obtain ⟨other, member, found⟩ := some_
          refine inductionHypothesis ⟨other, ?_, found⟩
          rcases List.mem_cons.mp member with rfl | later
          · rw [accepted] at found
            cases found
          · exact later

theorem finishes_iff {lines : List α} :
    Finishes accept lines ↔ ∃ line ∈ lines, (accept line).isSome = true :=
  ⟨fun ⟨_, ends⟩ => exists_accepted ends, fun some_ => ⟨_, prompt_of_accepted some_⟩⟩

end Cmput313.Prompting
