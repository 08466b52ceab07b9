import SchemaRecovery.Recovery.Resolution
import SchemaRecovery.Proofs.Schema.Distinct

set_option autoImplicit false

namespace SchemaRecovery.Recovery

open Script (Node)
open Schema (Catalog Definition Module putDefinition put_definition_distinct)

def bindings (module : Module) : List (String × Option String) :=
  module.definitions.map fun definition => (definition.name, definition.localName)

theorem bindings_names (module : Module) : (bindings module).map (·.1) = module.definitions.map (·.name) := by
  simp [bindings]

theorem resolve_table_binding (scope : Scope) (definition : Definition) (properties : List Node) :
    (resolveTable scope definition properties).1.name = definition.name ∧
      (resolveTable scope definition properties).1.localName = definition.localName := by
  unfold resolveTable
  split
  · split <;> exact ⟨rfl, rfl⟩
  · exact ⟨rfl, rfl⟩

theorem resolve_table_shaped (scope : Scope) (definition : Definition) (properties : List Node) :
    (resolveTable scope definition properties).1.isShell = false := by
  unfold resolveTable
  split
  · rename_i values counted
    have filled : values ≠ [] := by
      rintro rfl
      cases properties with
      | nil => cases counted
      | cons first rest => simp [enumValues?, List.mapM_cons, Option.bind_eq_some_iff] at counted
    split
    · rename_i known
      cases members : definition.members <;>
        simp [Definition.isShell, Definition.isEnum, Definition.isMessage, members, known]
    · simp [Definition.isShell, Definition.isEnum, Definition.isMessage, Definition.hasValues, Definition.values, filled]
  · rfl

theorem resolve_table_values (scope : Scope) (definition : Definition) (properties : List Node)
    (known : definition.hasValues = true) :
    (resolveTable scope definition properties).1.enumValues = definition.enumValues := by
  unfold resolveTable
  split
  · rw [if_pos known]
  · rfl

theorem put_definition_binding (definition old : Definition) (definitions : List Definition) (member : old ∈ definitions)
    (name : definition.name = old.name) (localName : definition.localName = old.localName)
    (distinct : (definitions.map (·.name)).Nodup) :
    (putDefinition definition definitions).map (fun definition => (definition.name, definition.localName)) =
      definitions.map fun definition => (definition.name, definition.localName) := by
  induction definitions with
  | nil => cases member
  | cons first rest ih =>
      rw [List.map_cons, List.nodup_cons] at distinct
      rcases List.mem_cons.mp member with rfl | later
      · rw [putDefinition, if_pos name.symm, List.map_cons, List.map_cons, name, localName]
      · have other : first.name ≠ definition.name := by
          intro same
          exact distinct.1 (List.mem_map.mpr ⟨old, later, name.symm.trans same.symm⟩)
        rw [putDefinition, if_neg other, List.map_cons, List.map_cons, ih later distinct.2]

theorem owner_found (table : SpecTable) (module : Module) (definition : Definition)
    (found : table.owner? module = some definition) : definition ∈ module.definitions ∧
      ∃ localName, table.target = .identifier localName ∧ definition.localName = some localName := by
  simp only [SpecTable.owner?, Option.bind_eq_bind, Option.bind_eq_some_iff, Module.ofLocalName?] at found
  obtain ⟨localName, named, found⟩ := found
  refine ⟨List.mem_of_find?_eq_some found, localName, ?_, by simpa using List.find?_some found⟩
  cases target : table.target <;> simp_all [Node.name?]

section Steps
variable (settings : Settings) (modules : List Module)

theorem resolve_step_name (progress : Progress) (table : SpecTable) :
    (resolveStep settings modules progress table).module.name = progress.module.name := by
  unfold resolveStep
  split <;> rfl

theorem resolve_step_bindings (progress : Progress) (table : SpecTable)
    (distinct : (progress.module.definitions.map (·.name)).Nodup) :
    bindings (resolveStep settings modules progress table).module = bindings progress.module := by
  unfold resolveStep
  split
  · rfl
  · rename_i definition owned
    obtain ⟨member, _⟩ := owner_found table progress.module definition owned
    obtain ⟨name, localName⟩ := resolve_table_binding ⟨settings, modules, progress.module⟩ definition table.properties
    exact put_definition_binding _ definition _ member name localName distinct

theorem names_of_bindings (a b : Module) (same : bindings a = bindings b) :
    a.definitions.map (·.name) = b.definitions.map (·.name) := by
  rw [← bindings_names, ← bindings_names, same]

theorem resolve_tables_bindings (tables : List SpecTable) (progress : Progress)
    (distinct : (progress.module.definitions.map (·.name)).Nodup) :
    (tables.foldl (resolveStep settings modules) progress).module.name = progress.module.name ∧
      bindings (tables.foldl (resolveStep settings modules) progress).module = bindings progress.module := by
  induction tables generalizing progress with
  | nil => exact ⟨rfl, rfl⟩
  | cons table rest ih =>
      have same := resolve_step_bindings settings modules progress table distinct
      obtain ⟨name, kept⟩ := ih (resolveStep settings modules progress table) (names_of_bindings _ _ same ▸ distinct)
      exact ⟨name.trans (resolve_step_name settings modules progress table), kept.trans same⟩

theorem resolve_module_bindings (module : Module) (distinct : (module.definitions.map (·.name)).Nodup) :
    (resolveModule settings modules module).module.name = module.name ∧
      bindings (resolveModule settings modules module).module = bindings module :=
  resolve_tables_bindings settings modules _ ⟨module, 0, []⟩ distinct

end Steps

theorem resolve_result (settings : Settings) (catalog result : Catalog) (resolved : resolve settings catalog = .ok result) :
    result.modules = catalog.modules.map (fun module => (resolveModule settings catalog.modules module).module) ∧
      result.nesting = catalog.nesting ∧
      result.warnings = catalog.warnings ++
        ((catalog.modules.flatMap fun module => (resolveModule settings catalog.modules module).notices).filterMap
          (·.warning?) ++ collisions result.modules) := by
  simp only [resolve] at resolved
  split at resolved
  · cases resolved
  · cases resolved
    refine ⟨by simp [Catalog.withWarnings, Resolved.modules, Resolved.ofCatalog], rfl, ?_⟩
    simp [Catalog.withWarnings, Resolved.warnings, Resolved.notices, Resolved.ofCatalog, List.flatMap_map]

theorem resolved_names_distinct (settings : Settings) (catalog result : Catalog)
    (keyed : ∀ module ∈ catalog.modules, (module.definitions.map (·.name)).Nodup)
    (resolved : resolve settings catalog = .ok result) :
    ∀ module ∈ result.modules, (module.definitions.map (·.name)).Nodup := by
  rw [(resolve_result settings catalog result resolved).1]
  intro module member
  obtain ⟨old, present, rfl⟩ := List.mem_map.mp member
  have distinct := keyed old present
  rw [names_of_bindings _ _ (resolve_module_bindings settings catalog.modules old distinct).2]
  exact distinct

end SchemaRecovery.Recovery
