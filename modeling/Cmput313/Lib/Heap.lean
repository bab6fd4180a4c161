import Mathlib.Data.List.Nodup
import Mathlib.Data.List.Perm.Subperm
import Mathlib.Data.List.Range
import Mathlib.Tactic.Common

/-!
# Heaps of cells that can be freed

An explicit heap: reading, writing or freeing a cell that is not there has no
result.  `freed` is the ledger of what was freed; an address that stands in it is
never live again.  Assertions about a heap are lists of cells with distinct
addresses, so a part of such a list is a heap of its own.
-/

set_option autoImplicit false

namespace Cmput313

abbrev Addr := Nat

structure Heap (κ : Type) where
  cells : Addr → Option κ
  bound : Addr
  freed : List Addr
  bounded : ∀ address, cells address ≠ none → address < bound
  removed : ∀ address ∈ freed, address < bound ∧ cells address = none
  once : freed.Nodup

namespace Heap

variable {κ : Type}

def empty : Heap κ where
  cells _ := none
  bound := 0
  freed := []
  bounded _ live := absurd rfl live
  removed _ member := nomatch member
  once := List.nodup_nil

/-! ## Operations -/

def alloc (heap : Heap κ) (cell : κ) : Heap κ where
  cells address := if address = heap.bound then some cell else heap.cells address
  bound := heap.bound + 1
  freed := heap.freed
  bounded := by
    intro address live
    by_cases new : address = heap.bound
    · exact new ▸ Nat.lt_succ_self _
    · rw [if_neg new] at live
      exact Nat.lt_succ_of_lt (heap.bounded address live)
  removed := by
    intro address member
    obtain ⟨old, gone⟩ := heap.removed address member
    rw [if_neg (Nat.ne_of_lt old)]
    exact ⟨Nat.lt_succ_of_lt old, gone⟩
  once := heap.once

def write (heap : Heap κ) (address : Addr) (cell : κ) : Option (Heap κ) :=
  if live : heap.cells address ≠ none then
    some
      { cells := fun other => if other = address then some cell else heap.cells other
        bound := heap.bound
        freed := heap.freed
        bounded := by
          intro other otherLive
          by_cases same : other = address
          · exact same ▸ heap.bounded address live
          · rw [if_neg same] at otherLive
            exact heap.bounded other otherLive
        removed := by
          intro other member
          obtain ⟨old, gone⟩ := heap.removed other member
          have apart : other ≠ address := fun same => live (same ▸ gone)
          rw [if_neg apart]
          exact ⟨old, gone⟩
        once := heap.once }
  else none

def free (heap : Heap κ) (address : Addr) : Option (Heap κ) :=
  if live : heap.cells address ≠ none then
    some
      { cells := fun other => if other = address then none else heap.cells other
        bound := heap.bound
        freed := address :: heap.freed
        bounded := by
          intro other otherLive
          by_cases same : other = address
          · rw [if_pos same] at otherLive
            exact absurd rfl otherLive
          · rw [if_neg same] at otherLive
            exact heap.bounded other otherLive
        removed := by
          intro other member
          by_cases same : other = address
          · rw [if_pos same, same]
            exact ⟨heap.bounded address live, rfl⟩
          · rw [if_neg same]
            cases member with
            | head => exact absurd rfl same
            | tail _ before => exact heap.removed other before
        once := List.nodup_cons.mpr
          ⟨fun member => live (heap.removed address member).2, heap.once⟩ }
  else none

theorem cells_of_free {heap next : Heap κ} {address : Addr}
    (freed : heap.free address = some next) : next.cells address = none := by
  by_cases live : heap.cells address ≠ none
  · rw [free, dif_pos live] at freed
    cases freed
    exact if_pos rfl
  · rw [free, dif_neg live] at freed
    cases freed

theorem count_freed {heap : Heap κ} {address : Addr} (member : address ∈ heap.freed) :
    heap.freed.count address = 1 :=
  List.count_eq_one_of_mem heap.once member

/-! ## Footprints -/

/-- The heap has these cells, at addresses of their own. -/
structure Holds (heap : Heap κ) (cells : List (Addr × κ)) : Prop where
  live : ∀ entry ∈ cells, heap.cells entry.1 = some entry.2
  distinct : (cells.map Prod.fst).Nodup

section Holds

variable {heap : Heap κ} {cells rest : List (Addr × κ)} {address : Addr} {cell : κ}

theorem holds_nil (heap : Heap κ) : heap.Holds [] where
  live _ member := nomatch member
  distinct := List.nodup_nil

theorem Holds.perm (holds : heap.Holds cells) {other : List (Addr × κ)}
    (same : cells.Perm other) : heap.Holds other where
  live entry member := holds.live entry (same.symm.subset member)
  distinct := (same.map Prod.fst).nodup_iff.mp holds.distinct

theorem Holds.tail (holds : heap.Holds ((address, cell) :: rest)) : heap.Holds rest where
  live entry member := holds.live entry (List.mem_cons_of_mem _ member)
  distinct := (List.nodup_cons.mp holds.distinct).2

theorem Holds.head (holds : heap.Holds ((address, cell) :: rest)) :
    heap.cells address = some cell :=
  holds.live (address, cell) (List.mem_cons_self ..)

theorem Holds.apart (holds : heap.Holds ((address, cell) :: rest)) :
    ∀ entry ∈ rest, entry.1 ≠ address := by
  intro entry member same
  have absent := (List.nodup_cons.mp holds.distinct).1
  exact absent (List.mem_map.mpr ⟨entry, member, same⟩)

theorem Holds.length_le (holds : heap.Holds cells) : cells.length ≤ heap.bound := by
  have inside : cells.map Prod.fst ⊆ List.range heap.bound := by
    intro other member
    obtain ⟨entry, entryMember, rfl⟩ := List.mem_map.mp member
    rw [List.mem_range]
    refine heap.bounded entry.1 ?_
    rw [holds.live entry entryMember]
    exact Option.some_ne_none _
  have short := (List.subperm_of_subset holds.distinct inside).length_le
  rwa [List.length_map, List.length_range] at short

theorem Holds.free (holds : heap.Holds ((address, cell) :: rest)) :
    ∃ next, heap.free address = some next ∧ next.Holds rest ∧
      next.freed = address :: heap.freed ∧ next.bound = heap.bound := by
  have live : heap.cells address ≠ none := by
    rw [holds.head]
    exact Option.some_ne_none _
  refine ⟨_, dif_pos live, ⟨?_, holds.tail.distinct⟩, rfl, rfl⟩
  intro entry member
  dsimp only
  rw [if_neg (holds.apart entry member)]
  exact holds.tail.live entry member

theorem Holds.write (holds : heap.Holds ((address, cell) :: rest)) (value : κ) :
    ∃ next, heap.write address value = some next ∧
      next.Holds ((address, value) :: rest) ∧ next.freed = heap.freed ∧
      next.bound = heap.bound := by
  have live : heap.cells address ≠ none := by
    rw [holds.head]
    exact Option.some_ne_none _
  refine ⟨_, dif_pos live, ⟨?_, holds.distinct⟩, rfl, rfl⟩
  intro entry member
  dsimp only
  cases member with
  | head => exact if_pos rfl
  | tail _ later =>
      rw [if_neg (holds.apart entry later)]
      exact holds.tail.live entry later

theorem Holds.write_middle {front back : List (Addr × κ)}
    (holds : heap.Holds (front ++ (address, cell) :: back)) (value : κ) :
    ∃ next, heap.write address value = some next ∧
      next.Holds (front ++ (address, value) :: back) ∧ next.freed = heap.freed ∧
      next.bound = heap.bound := by
  obtain ⟨next, written, kept, freed, bound⟩ := (holds.perm List.perm_middle).write value
  exact ⟨next, written, kept.perm List.perm_middle.symm, freed, bound⟩

theorem Holds.alloc (holds : heap.Holds cells) (value : κ) :
    (heap.alloc value).Holds ((heap.bound, value) :: cells) where
  live := by
    intro entry member
    cases member with
    | head => exact if_pos rfl
    | tail _ old =>
        have live := holds.live entry old
        have older : entry.1 < heap.bound := by
          refine heap.bounded entry.1 ?_
          rw [live]
          exact Option.some_ne_none _
        exact (if_neg (Nat.ne_of_lt older)).trans live
  distinct := by
    refine List.nodup_cons.mpr ⟨?_, holds.distinct⟩
    intro member
    obtain ⟨entry, old, same⟩ := List.mem_map.mp member
    have older : entry.1 < heap.bound := by
      refine heap.bounded entry.1 ?_
      rw [holds.live entry old]
      exact Option.some_ne_none _
    exact Nat.ne_of_lt older same

end Holds

end Heap

end Cmput313
