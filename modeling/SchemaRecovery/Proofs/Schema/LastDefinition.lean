import Mathlib.Data.List.Induction
import Mathlib.Data.List.Nodup
import SchemaRecovery.Proofs.Schema.Distinct

set_option autoImplicit false

namespace SchemaRecovery.Schema

theorem find_put_definition (definition : Definition) (found : List Definition) (name : String) :
    ((putDefinition definition found).find? fun other => other.name = name) =
      if definition.name = name then some definition else found.find? fun other => other.name = name := by
  induction found with
  | nil => by_cases here : definition.name = name <;> simp [putDefinition, here]
  | cons first rest ih =>
      by_cases replaced : first.name = definition.name
      · by_cases here : definition.name = name
        · rw [putDefinition, if_pos replaced, List.find?_cons_of_pos (by simpa using here), if_pos here]
        · have passed : ¬ first.name = name := fun same => here (replaced.symm.trans same)
          rw [putDefinition, if_pos replaced, if_neg here, List.find?_cons_of_neg (by simpa using here),
            List.find?_cons_of_neg (by simpa using passed)]
      · rw [putDefinition, if_neg replaced]
        by_cases first_hit : first.name = name
        · have other : ¬ definition.name = name := fun same => replaced (first_hit.trans same.symm)
          rw [List.find?_cons_of_pos (by simpa using first_hit), if_neg other,
            List.find?_cons_of_pos (by simpa using first_hit)]
        · rw [List.find?_cons_of_neg (by simpa using first_hit), ih, List.find?_cons_of_neg (by simpa using first_hit)]

theorem find_put_all (fresh found : List Definition) (name : String) :
    ((fresh.foldl (fun found definition => putDefinition definition found) found).find? fun other => other.name = name) =
      (fresh.reverse.find? fun other => other.name = name).or (found.find? fun other => other.name = name) := by
  induction fresh generalizing found with
  | nil => simp
  | cons first rest ih =>
      rw [List.foldl_cons, ih, find_put_definition, List.reverse_cons, List.find?_append, Option.or_assoc]
      congr 1
      by_cases here : first.name = name <;> simp [here]

theorem find_by_name (catalog : Catalog) (name : String) :
    (catalog.byName.find? fun definition => definition.name = name) =
      catalog.definitions.reverse.find? fun definition => definition.name = name := by
  rw [Catalog.byName, find_put_all]
  simp

theorem find_keyed_iff {α : Type} (key : α → String) (items : List α) (distinct : (items.map key).Nodup) (name : String)
    (item : α) : (items.find? fun other => key other = name) = some item ↔ item ∈ items ∧ key item = name := by
  constructor
  · intro found
    exact ⟨List.mem_of_find?_eq_some found, by simpa using List.find?_some found⟩
  · rintro ⟨member, rfl⟩
    have listed : (items.find? fun other => key other = key item).isSome :=
      List.find?_isSome.mpr ⟨item, member, by simp⟩
    obtain ⟨other, found⟩ := Option.isSome_iff_exists.mp listed
    have same : key other = key item := by simpa using List.find?_some found
    rw [found, List.inj_on_of_nodup_map distinct (List.mem_of_find?_eq_some found) member same]

theorem find_keyed_reverse {α : Type} (key : α → String) (items : List α) (distinct : (items.map key).Nodup)
    (name : String) :
    (items.reverse.find? fun item => key item = name) = items.find? fun item => key item = name := by
  have back : (items.reverse.map key).Nodup := by rwa [List.map_reverse, List.nodup_reverse]
  ext item
  rw [find_keyed_iff key _ back, find_keyed_iff key _ distinct, List.mem_reverse]

theorem find_by_name_split (catalog : Catalog) (before after : List Module) (owner : Module)
    (split : catalog.modules = before ++ owner :: after) (distinct : (owner.definitions.map (·.name)).Nodup)
    (definition : Definition) (member : definition ∈ owner.definitions) :
    (catalog.byName.find? fun other => other.name = definition.name) =
      (((after.flatMap (·.definitions)).reverse.find? fun other => other.name = definition.name).or
        (some definition)) := by
  have own : (owner.definitions.reverse.find? fun other => other.name = definition.name) = some definition :=
    (find_keyed_reverse (fun other : Definition => other.name) _ distinct _).trans
      ((find_keyed_iff (·.name) _ distinct _ definition).mpr ⟨member, rfl⟩)
  rw [find_by_name, Catalog.definitions, split, List.flatMap_append, List.flatMap_cons, List.reverse_append,
    List.reverse_append, List.find?_append, List.find?_append, own, Option.or_assoc, Option.some_or]

theorem find_last_module (catalog : Catalog) (name : String) :
    catalog.find? name = catalog.modules.reverse.findSome? fun module => module.definition? name := by
  rw [Catalog.find?]
  induction catalog.modules using List.reverseRecOn with
  | nil => rfl
  | append_singleton before last ih =>
      rw [List.foldl_append, ih, List.reverse_concat, List.findSome?_cons, List.foldl_cons, List.foldl_nil]
      cases last.definition? name <;> rfl

def LastOwned (catalog : Catalog) (name : String) (definition : Definition) : Prop :=
  ∃ before owner after, catalog.modules = before ++ owner :: after ∧ definition ∈ owner.definitions ∧
    definition.name = name ∧ ∀ later ∈ after, later.defines name = false

theorem definition_none_iff (module : Module) (name : String) :
    module.definition? name = none ↔ module.defines name = false := by
  simp [Module.definition?, Module.defines]

theorem definition_some_iff (module : Module) (distinct : (module.definitions.map (·.name)).Nodup) (name : String)
    (definition : Definition) :
    module.definition? name = some definition ↔ definition ∈ module.definitions ∧ definition.name = name :=
  find_keyed_iff (fun other : Definition => other.name) module.definitions distinct name definition

theorem find_last_none_iff (catalog : Catalog) (name : String) :
    catalog.find? name = none ↔ ∀ module ∈ catalog.modules, module.defines name = false := by
  simp only [find_last_module, List.findSome?_eq_none_iff, List.mem_reverse, definition_none_iff]

section Keyed
variable (catalog : Catalog) (keyed : ∀ module ∈ catalog.modules, (module.definitions.map (·.name)).Nodup)
include keyed

theorem find_last_iff (name : String) (definition : Definition) :
    catalog.find? name = some definition ↔ LastOwned catalog name definition := by
  rw [find_last_module, List.findSome?_eq_some_iff]
  constructor
  · rintro ⟨after, owner, before, split, found, others⟩
    have parts : catalog.modules = before.reverse ++ owner :: after.reverse := by
      rw [← List.reverse_inj, split]
      simp
    have distinct := keyed owner (parts ▸ List.mem_append_right _ List.mem_cons_self)
    obtain ⟨member, named⟩ := (definition_some_iff owner distinct name definition).mp found
    refine ⟨_, owner, _, parts, member, named, fun later last => ?_⟩
    exact (definition_none_iff later name).mp (others later (List.mem_reverse.mp last))
  · rintro ⟨before, owner, after, parts, member, named, others⟩
    have distinct := keyed owner (parts ▸ List.mem_append_right _ List.mem_cons_self)
    refine ⟨after.reverse, owner, before.reverse, by simp [parts], ?_, fun later last => ?_⟩
    · exact (definition_some_iff owner distinct name definition).mpr ⟨member, named⟩
    · exact (definition_none_iff later name).mpr (others later (List.mem_reverse.mp last))

theorem find_by_name_agrees (name : String) :
    (catalog.byName.find? fun definition => definition.name = name) = catalog.find? name := by
  rw [find_by_name, find_last_module, Catalog.definitions]
  generalize catalog.modules = modules at keyed
  -- A later module has the say, so the modules are taken from the last one on.
  induction modules using List.reverseRecOn with
  | nil => rfl
  | append_singleton before last ih =>
      have own := find_keyed_reverse (fun definition : Definition => definition.name) last.definitions
        (keyed last (by simp)) name
      rw [List.flatMap_append, List.flatMap_singleton, List.reverse_append, List.find?_append, own,
        ih fun module member => keyed module (List.mem_append_left _ member), List.reverse_concat, List.findSome?_cons,
        Module.definition?]
      cases last.definitions.find? fun definition => definition.name = name <;> rfl

end Keyed

end SchemaRecovery.Schema
