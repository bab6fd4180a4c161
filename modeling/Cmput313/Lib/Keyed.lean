import Mathlib.Data.List.Perm.Basic
import Mathlib.Data.List.Nodup

/-!
# Lists of records with distinct keys

A list in which no two records share a key behaves as a finite map that also has
an order: a key selects one record, and an update or a removal by key changes
that record alone.
-/

set_option autoImplicit false

namespace Cmput313.Keyed

variable {α κ : Type} (key : α → κ)

def Distinct (records : List α) : Prop := (records.map key).Nodup

section Distinct

variable {key} {records : List α}

theorem Distinct.perm {other : List α} (distinct : Distinct key records)
    (same : records.Perm other) : Distinct key other :=
  (same.map key).nodup_iff.mp distinct

theorem Distinct.eq_of_key (distinct : Distinct key records) {left right : α}
    (leftMember : left ∈ records) (rightMember : right ∈ records)
    (same : key left = key right) : left = right :=
  List.inj_on_of_nodup_map distinct leftMember rightMember same

theorem Distinct.split {before after : List α} {record : α}
    (distinct : Distinct key (before ++ record :: after)) :
    ∀ other ∈ before ++ after, key other ≠ key record := by
  have moved : Distinct key (record :: (before ++ after)) :=
    distinct.perm List.perm_middle
  rw [Distinct, List.map_cons, List.nodup_cons] at moved
  intro other member same
  exact moved.1 (same ▸ List.mem_map_of_mem member)

end Distinct

variable [DecidableEq κ]

def update (id : κ) (change : α → α) (records : List α) : List α :=
  records.map fun record => if key record = id then change record else record

def remove (id : κ) (records : List α) : List α :=
  records.filter fun record => key record ≠ id

def lookup (id : κ) (records : List α) : Option α :=
  records.find? fun record => key record = id

variable {key} {records : List α}

theorem lookup_mem {id : κ} {record : α} (found : lookup key id records = some record) :
    record ∈ records ∧ key record = id :=
  ⟨List.mem_of_find?_eq_some found, by simpa using List.find?_some found⟩

theorem find_key_cases (key : α → κ) (id : κ) (records : List α) :
    (∃ record ∈ records, key record = id ∧
      (records.find? fun other => key other = id) = some record) ∨
      ((∀ record ∈ records, key record ≠ id) ∧
        (records.find? fun other => key other = id) = none) := by
  cases found : records.find? fun other => key other = id with
  | some record =>
      obtain ⟨member, same⟩ := lookup_mem found
      exact Or.inl ⟨record, member, same, rfl⟩
  | none =>
      refine Or.inr ⟨fun record member same => ?_, rfl⟩
      have differs := List.find?_eq_none.mp found record member
      exact differs (decide_eq_true same)

theorem Distinct.lookup_eq_some_iff (distinct : Distinct key records) {id : κ}
    {record : α} :
    lookup key id records = some record ↔ record ∈ records ∧ key record = id := by
  constructor
  · exact lookup_mem
  · rintro ⟨member, rfl⟩
    cases found : lookup key (key record) records with
    | none =>
        have absent := List.find?_eq_none.mp found record member
        simp at absent
    | some other =>
        have other_mem := lookup_mem found
        rw [distinct.eq_of_key other_mem.1 member other_mem.2]

theorem update_of_absent {id : κ} (change : α → α)
    (absent : ∀ record ∈ records, key record ≠ id) :
    update key id change records = records := by
  conv_rhs => rw [← List.map_id records]
  apply List.map_congr_left
  intro record member
  simp [absent record member]

theorem remove_of_absent {id : κ} (absent : ∀ record ∈ records, key record ≠ id) :
    remove key id records = records :=
  List.filter_eq_self.mpr fun record member => by simpa using absent record member

theorem Distinct.update_split {before after : List α} {record : α}
    (distinct : Distinct key (before ++ record :: after)) (change : α → α) :
    update key (key record) change (before ++ record :: after) =
      before ++ change record :: after := by
  have others := distinct.split
  have front := update_of_absent change
    fun other member => others other (List.mem_append_left _ member)
  have back := update_of_absent change
    fun other member => others other (List.mem_append_right _ member)
  rw [update] at front back ⊢
  rw [List.map_append, List.map_cons, front, back, if_pos rfl]

theorem Distinct.remove_split {before after : List α} {record : α}
    (distinct : Distinct key (before ++ record :: after)) :
    remove key (key record) (before ++ record :: after) = before ++ after := by
  have others := distinct.split
  have kept := remove_of_absent others
  rw [remove] at kept ⊢
  rw [List.filter_append] at kept ⊢
  rw [List.filter_cons_of_neg (by simp), kept]

theorem update_append {id : κ} {change : α → α} (left right : List α) :
    update key id change (left ++ right) =
      update key id change left ++ update key id change right :=
  List.map_append

theorem map_update {β : Type} {id : κ} {change : α → α} (field : α → β)
    (kept : ∀ record, field (change record) = field record) :
    (update key id change records).map field = records.map field := by
  rw [update, List.map_map]
  apply List.map_congr_left
  intro record _
  rw [Function.comp_apply]
  split
  · exact kept record
  · rfl

theorem mem_update {id : κ} {change : α → α} {record : α}
    (member : record ∈ update key id change records) :
    ∃ old ∈ records, (key old = id ∧ record = change old) ∨
      (key old ≠ id ∧ record = old) := by
  obtain ⟨old, oldMember, rfl⟩ := List.mem_map.mp member
  refine ⟨old, oldMember, ?_⟩
  by_cases same : key old = id
  · exact Or.inl ⟨same, if_pos same⟩
  · exact Or.inr ⟨same, if_neg same⟩

theorem filter_eq_of_sublist {kept : List κ} {whole : List κ}
    (sublist : kept.Sublist whole) (distinct : whole.Nodup) :
    whole.filter (fun id => id ∈ kept) = kept := by
  induction sublist with
  | slnil => rfl
  | cons head sublist inductionHypothesis =>
      obtain ⟨absent, restDistinct⟩ := List.nodup_cons.mp distinct
      have dropped : head ∉ _ := fun member => absent (sublist.subset member)
      rw [List.filter_cons_of_neg (by simpa using dropped)]
      exact inductionHypothesis restDistinct
  | @cons_cons kept rest head sublist inductionHypothesis =>
      obtain ⟨absent, restDistinct⟩ := List.nodup_cons.mp distinct
      have others : rest.filter (fun id => id ∈ head :: kept) =
          rest.filter fun id => id ∈ kept := by
        apply List.filter_congr
        intro id member
        have different : id ≠ head := fun same => absent (same ▸ member)
        simp [different]
      rw [List.filter_cons_of_pos (by simp), others, inductionHypothesis restDistinct]

end Cmput313.Keyed
