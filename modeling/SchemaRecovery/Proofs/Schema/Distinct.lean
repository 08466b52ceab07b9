import SchemaRecovery.Schema.Catalog
import Mathlib.Data.List.Basic

set_option autoImplicit false

namespace SchemaRecovery.Schema

theorem erase_dups_sublist {α : Type} [BEq α] (items : List α) : items.eraseDups.Sublist items := by
  cases items with
  | nil => exact List.Sublist.refl _
  | cons first rest =>
      rw [List.eraseDups_cons]
      exact List.Sublist.cons_cons first ((erase_dups_sublist _).trans List.filter_sublist)
termination_by items.length
decreasing_by
  exact Nat.lt_succ_of_le (List.length_filter_le _ rest)

theorem erase_dups_nodup {α : Type} [BEq α] [LawfulBEq α] (items : List α) : items.eraseDups.Nodup := by
  cases items with
  | nil => exact List.nodup_nil
  | cons first rest =>
      rw [List.eraseDups_cons, List.nodup_cons]
      exact ⟨by simp [List.mem_eraseDups], erase_dups_nodup _⟩
termination_by items.length
decreasing_by
  exact Nat.lt_succ_of_le (List.length_filter_le _ rest)

@[simp] theorem mem_sorted_names (names : List String) (name : String) :
    name ∈ sortedNames names ↔ name ∈ names := by
  simp [sortedNames, List.mem_eraseDups]

theorem sorted_names_strict (names : List String) : (sortedNames names).Pairwise (· < ·) := by
  have ascending : (names.mergeSort fun a b => decide (a ≤ b)).Pairwise fun a b => decide (a ≤ b) = true := by
    apply List.pairwise_mergeSort
    · intro a b c first second
      simp only [decide_eq_true_eq] at *
      exact String.le_trans first second
    · intro a b
      simpa using String.le_total a b
  have kept := ascending.sublist (erase_dups_sublist _)
  have distinct := erase_dups_nodup (names.mergeSort fun a b => decide (a ≤ b))
  refine (kept.and distinct).imp ?_
  rintro a b ⟨below, different⟩
  simp only [decide_eq_true_eq] at below
  exact String.not_le.mp fun above => different (String.le_antisymm below above)

theorem ascending_unique (a b : List String) (left : a.Pairwise (· < ·)) (right : b.Pairwise (· < ·))
    (same : ∀ name, name ∈ a ↔ name ∈ b) : a = b := by
  have distinct (names : List String) (strict : names.Pairwise (· < ·)) : names.Nodup := by
    refine strict.imp ?_
    intro first second less equal
    exact String.lt_irrefl second (equal ▸ less)
  have perm := (List.perm_ext_iff_of_nodup (distinct a left) (distinct b right)).mpr same
  refine perm.eq_of_pairwise ?_ left right
  intro first second _ _ less more
  exact absurd (String.lt_trans less more) (String.lt_irrefl first)

theorem mem_put_definition (definition other : Definition) (found : List Definition)
    (distinct : (found.map (·.name)).Nodup) :
    other ∈ putDefinition definition found ↔
      other = definition ∨ other ∈ found ∧ other.name ≠ definition.name := by
  induction found with
  | nil => simp [putDefinition]
  | cons first rest ih =>
      rw [List.map_cons, List.nodup_cons] at distinct
      by_cases same : first.name = definition.name
      · have absent : ∀ later ∈ rest, later.name ≠ definition.name := by
          intro later member equal
          exact distinct.1 (List.mem_map.mpr ⟨later, member, equal.trans same.symm⟩)
        rw [putDefinition, if_pos same, List.mem_cons, List.mem_cons]
        constructor
        · rintro (equal | member)
          · exact .inl equal
          · exact .inr ⟨.inr member, absent other member⟩
        · rintro (equal | ⟨equal | member, different⟩)
          · exact .inl equal
          · exact absurd (equal ▸ same) different
          · exact .inr member
      · rw [putDefinition, if_neg same, List.mem_cons, ih distinct.2, List.mem_cons]
        constructor
        · rintro (equal | equal | ⟨member, different⟩)
          · exact .inr ⟨.inl equal, equal ▸ same⟩
          · exact .inl equal
          · exact .inr ⟨.inr member, different⟩
        · rintro (equal | ⟨equal | member, different⟩)
          · exact .inr (.inl equal)
          · exact .inl equal
          · exact .inr (.inr ⟨member, different⟩)

theorem put_definition_names (definition : Definition) (found : List Definition) :
    (putDefinition definition found).map (·.name) =
      if definition.name ∈ found.map (·.name) then found.map (·.name)
      else found.map (·.name) ++ [definition.name] := by
  induction found with
  | nil => rfl
  | cons first rest ih =>
      by_cases same : first.name = definition.name
      · simp [putDefinition, same]
      · have different : definition.name ≠ first.name := Ne.symm same
        rw [putDefinition, if_neg same, List.map_cons, ih, List.map_cons]
        by_cases later : definition.name ∈ rest.map (·.name)
        · simp only [List.mem_cons, different, later, or_true, if_true]
        · simp only [List.mem_cons, different, later, or_self, if_false, List.cons_append]

theorem put_definition_distinct (definition : Definition) (found : List Definition)
    (distinct : (found.map (·.name)).Nodup) : ((putDefinition definition found).map (·.name)).Nodup := by
  rw [put_definition_names]
  split
  · exact distinct
  · rename_i absent
    exact List.nodup_append.mpr ⟨distinct, by simp, by
      intro a member b last equal
      rw [List.mem_singleton] at last
      exact absent (last ▸ equal ▸ member)⟩

theorem put_all_names (fresh found : List Definition) (distinct : (found.map (·.name)).Nodup) :
    ((fresh.foldl (fun found definition => putDefinition definition found) found).map (·.name)).Nodup ∧
      ∀ name, name ∈ (fresh.foldl (fun found definition => putDefinition definition found) found).map (·.name) ↔
        name ∈ found.map (·.name) ∨ ∃ definition ∈ fresh, definition.name = name := by
  induction fresh generalizing found with
  | nil => exact ⟨distinct, by simp⟩
  | cons first rest ih =>
      obtain ⟨kept, names⟩ := ih (putDefinition first found) (put_definition_distinct first found distinct)
      refine ⟨kept, fun name => ?_⟩
      rw [List.foldl_cons, names, put_definition_names]
      split <;> simp only [List.mem_append, List.mem_cons, List.not_mem_nil, or_false] <;> grind

theorem mem_put_all (fresh found : List Definition) (definition : Definition)
    (distinct : (found.map (·.name)).Nodup)
    (present : definition ∈ fresh.foldl (fun found definition => putDefinition definition found) found) :
    definition ∈ found ∨ definition ∈ fresh := by
  induction fresh generalizing found with
  | nil => exact .inl present
  | cons first rest ih =>
      rcases ih _ (put_definition_distinct first found distinct) present with earlier | later
      · rcases (mem_put_definition first definition found distinct).mp earlier with same | old
        · exact .inr (same ▸ List.mem_cons_self)
        · exact .inl old.1
      · exact .inr (List.mem_cons_of_mem _ later)

theorem mem_by_name_names (catalog : Catalog) (name : String) :
    name ∈ catalog.byName.map (·.name) ↔ ∃ definition ∈ catalog.definitions, definition.name = name := by
  rw [Catalog.byName, (put_all_names catalog.definitions [] List.nodup_nil).2 name]
  simp only [List.map_nil, List.not_mem_nil, false_or]

theorem mem_by_name (catalog : Catalog) (definition : Definition) (member : definition ∈ catalog.byName) :
    definition ∈ catalog.definitions := by
  simpa only [List.not_mem_nil, false_or] using
    mem_put_all catalog.definitions [] definition List.nodup_nil member

end SchemaRecovery.Schema
