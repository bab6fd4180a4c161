import Mathlib.Data.List.Induction
import Mathlib.Order.Basic

/-!
# A scan that keeps the last match

A loop over an ascending list that overwrites its result at every match returns
the value at the greatest matching position.
-/

set_option autoImplicit false

namespace Cmput313.LastMatch

variable {ι α : Type} (hit : ι → Prop) [DecidablePred hit] (value : ι → α)

def lastMatch (positions : List ι) : Option α :=
  positions.foldl (fun found i => if hit i then some (value i) else found) none

variable {hit} {value}

theorem lastMatch_concat (front : List ι) (last : ι) :
    lastMatch hit value (front ++ [last]) =
      if hit last then some (value last) else lastMatch hit value front := by
  rw [lastMatch, List.foldl_append]
  rfl

theorem lastMatch_eq_none_iff {positions : List ι} :
    lastMatch hit value positions = none ↔ ∀ i ∈ positions, ¬ hit i := by
  induction positions using List.reverseRec with
  | nil => simp [lastMatch]
  | append_singleton front last inductionHypothesis =>
      rw [lastMatch_concat]
      by_cases matched : hit last
      · rw [if_pos matched]
        exact iff_of_false (by simp) fun none => none last (by simp) matched
      · rw [if_neg matched, inductionHypothesis]
        simp only [List.mem_append, List.mem_singleton, or_imp, forall_and,
          forall_eq, matched, not_false_eq_true, and_true]

variable [Preorder ι]

theorem lastMatch_eq_some_iff {positions : List ι} (ascending : positions.Pairwise (· < ·))
    {result : α} :
    lastMatch hit value positions = some result ↔
      ∃ i ∈ positions, hit i ∧ (∀ j ∈ positions, i < j → ¬ hit j) ∧ value i = result := by
  induction positions using List.reverseRec with
  | nil => simp [lastMatch]
  | append_singleton front last inductionHypothesis =>
      have parts := List.pairwise_append.mp ascending
      have below : ∀ i ∈ front, i < last :=
        fun i member => parts.2.2 i member last (List.mem_singleton_self _)
      have earlier := inductionHypothesis parts.1
      rw [lastMatch_concat]
      by_cases matched : hit last
      · rw [if_pos matched]
        constructor
        · intro same
          refine ⟨last, by simp, matched, ?_, Option.some.inj same⟩
          intro j member later
          rcases List.mem_append.mp member with inside | final
          · exact absurd (below j inside) (not_lt_of_gt later)
          · rw [List.mem_singleton.mp final] at later
            exact absurd later (lt_irrefl _)
        · intro found
          obtain ⟨i, member, _, others, same⟩ := found
          rcases List.mem_append.mp member with inside | final
          · exact absurd matched (others last (by simp) (below i inside))
          · rw [← same, List.mem_singleton.mp final]
      · rw [if_neg matched, earlier]
        constructor
        · intro found
          obtain ⟨i, member, iMatched, others, same⟩ := found
          refine ⟨i, List.mem_append_left _ member, iMatched, ?_, same⟩
          intro j later above
          rcases List.mem_append.mp later with inside | final
          · exact others j inside above
          · rw [List.mem_singleton.mp final]
            exact matched
        · intro found
          obtain ⟨i, member, iMatched, others, same⟩ := found
          rcases List.mem_append.mp member with inside | final
          · exact ⟨i, inside, iMatched,
              fun j later => others j (List.mem_append_left _ later), same⟩
          · rw [List.mem_singleton.mp final] at iMatched
            exact absurd iMatched matched

end Cmput313.LastMatch
