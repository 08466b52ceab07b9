import SchemaRecovery.Proofs.Recovery.EnumBody
import SchemaRecovery.Proofs.Schema.Distinct
import Mathlib.Data.List.Nodup

set_option autoImplicit false

namespace SchemaRecovery.Recovery

open Script (Node)
open Schema (Catalog Definition EnumValue Module Nesting erase_dups_nodup path_of_register)

structure Foreign (settings : Settings) (schema : List DefinitionSource) (statement : Node) (definition : Definition) :
    Prop where
  exported : ∃ node ∈ Script.walk statement, ∃ value, Exports settings definition.name value node
  empty : definition.members = none
  name : ∀ source ∈ schema, definition.name ≠ source.name
  localName : ∀ source ∈ schema, definition.localName ≠ some source.localName

theorem link_again (tables : List (String × List EnumValue)) (value other : Node) (definition : Definition) :
    linkDefinition tables value (linkDefinition tables other definition) = linkDefinition tables value definition := rfl

theorem linked_cases (settings : Settings) (tables : List (String × List EnumValue)) (assignments : List Assignment)
    (definitions : List Definition) (definition : Definition)
    (member : definition ∈ assignments.foldl (link settings tables) definitions) :
    ∃ base ∈ definitions, (definition = base ∧ ∀ assignment ∈ assignments, exportKey settings assignment ≠ base.name) ∨
      ∃ assignment ∈ assignments, exportKey settings assignment = base.name ∧
        definition = linkDefinition tables assignment.value base := by
  induction assignments generalizing definitions with
  | nil => exact ⟨definition, member, .inl ⟨rfl, by simp⟩⟩
  | cons first rest ih =>
      obtain ⟨next, present, decided⟩ := ih _ member
      obtain ⟨base, old, rfl⟩ := List.mem_map.mp present
      refine ⟨base, old, ?_⟩
      by_cases here : base.name = exportKey settings first
      · rw [if_pos here] at decided
        rcases decided with ⟨rfl, _⟩ | ⟨assignment, later, key, rfl⟩
        · exact .inr ⟨first, List.mem_cons_self, here.symm, rfl⟩
        · exact .inr ⟨assignment, List.mem_cons_of_mem _ later, key, link_again _ _ _ _⟩
      · rw [if_neg here] at decided
        rcases decided with ⟨rfl, others⟩ | ⟨assignment, later, key, rfl⟩
        · refine .inl ⟨rfl, ?_⟩
          intro assignment member same
          rcases List.mem_cons.mp member with rfl | later
          · exact here same.symm
          · exact others assignment later same
        · exact .inr ⟨assignment, List.mem_cons_of_mem _ later, key, rfl⟩

theorem named_assignment (settings : Settings) (statement : Node) (name : String) (value : Node) :
    (∃ node ∈ Script.walk statement, Exports settings name value node) ↔
      ∃ assignment ∈ namedAssignments settings statement,
        exportKey settings assignment = name ∧ assignment.value = value := by
  simp only [namedAssignments, List.mem_filter, List.mem_filterMap, Bool.not_eq_true', exportKey]
  constructor
  · rintro ⟨node, visited, target, property, assigned, free, key⟩
    exact ⟨_, ⟨⟨node, visited, assigned⟩, by simpa using free⟩, key, rfl⟩
  · rintro ⟨⟨target, property, _⟩, ⟨⟨node, visited, assigned⟩, free⟩, key, rfl⟩
    exact ⟨node, visited, target, property, assigned, by simpa using free, key⟩

theorem catalogued_cases (settings : Settings) (module : Module) (definition : Definition)
    (member : definition ∈ (catalogModule settings module).definitions) :
    ∃ value, (∃ node ∈ Script.walk module.statement, Exports settings definition.name value node) ∧
      definition = linkDefinition (enumTables settings module.statement) value {
        name := definition.name
        nestingPath := Schema.Name.nestingPath definition.name
        module := some module.name } := by
  obtain ⟨base, created, decided⟩ := linked_cases settings _ _ _ definition member
  obtain ⟨key, listed, rfl⟩ := List.mem_map.mp created
  rw [List.mem_eraseDups, List.mem_reverse] at listed
  obtain ⟨assignment, present, same⟩ := List.mem_map.mp listed
  rcases decided with ⟨_, others⟩ | ⟨assignment, present, same, rfl⟩
  · exact absurd same (others assignment present)
  · exact ⟨assignment.value, (named_assignment _ _ _ _).mpr ⟨assignment, present, same, rfl⟩, rfl⟩

theorem catalogued_names (settings : Settings) (module : Module) :
    ((catalogModule settings module).definitions.map (·.name)).Nodup := by
  rw [catalog_module_names]
  exact erase_dups_nodup _

theorem catalogue_keyed (settings : Settings) (catalog : Catalog) :
    ∀ module ∈ (catalogue settings catalog).modules, (module.definitions.map (·.name)).Nodup := by
  intro module member
  obtain ⟨source, _, rfl⟩ := List.mem_map.mp member
  exact catalogued_names settings source

section Catalogued
variable (settings : Settings) (schema : List DefinitionSource) (module : Module)
  (valid : ValidSchema settings schema) (written : Written settings schema module.statement)
include valid written

theorem catalogued_own (definition : Definition) (member : definition ∈ (catalogModule settings module).definitions)
    (source : DefinitionSource) (present : source ∈ schema) (same : definition.name = source.name) :
    definition = source.catalogued module.name := by
  obtain ⟨value, ⟨node, visited, exported⟩, linked⟩ := catalogued_cases settings module definition member
  obtain rfl := (written.noOtherExport source present node visited definition.name value exported).mp same
  have values := enum_table_lookup settings schema module.statement written valid source present
  rw [linked]
  simp only [linkDefinition, enumValuesOf, Node.name?, values, DefinitionSource.catalogued, same]

theorem catalogued_or_foreign (definition : Definition)
    (member : definition ∈ (catalogModule settings module).definitions) :
    (∃ source ∈ schema, definition = source.catalogued module.name) ∨
      Foreign settings schema module.statement definition := by
  by_cases own : ∃ source ∈ schema, definition.name = source.name
  · obtain ⟨source, present, same⟩ := own
    exact .inl ⟨source, present, catalogued_own settings schema module valid written definition member source present same⟩
  · obtain ⟨value, ⟨node, visited, exported⟩, linked⟩ := catalogued_cases settings module definition member
    refine .inr ⟨⟨node, visited, value, exported⟩, by rw [linked]; rfl, ?_, ?_⟩
    · intro source present same
      exact own ⟨source, present, same⟩
    · intro source present same
      rw [linked] at same
      have identifier := (node_named value source.localName).mp same
      exact own ⟨source, present, (written.noOtherExport source present node visited _ _ exported).mpr identifier⟩

theorem catalogued_source (source : DefinitionSource) (present : source ∈ schema) :
    source.catalogued module.name ∈ (catalogModule settings module).definitions := by
  have named : source.name ∈ (catalogModule settings module).definitions.map (·.name) := by
    obtain ⟨assignment, member, key, _⟩ :=
      (named_assignment settings module.statement _ _).mp (written.exports source present)
    rw [catalog_module_names, List.mem_eraseDups, List.mem_reverse]
    exact List.mem_map.mpr ⟨assignment, member, key⟩
  obtain ⟨definition, member, same⟩ := List.mem_map.mp named
  exact catalogued_own settings schema module valid written definition member source present same ▸ member

end Catalogued

theorem path_of_register_all (nesting : Nesting) (keys : List String) (name : String)
    (known : nesting.pathOf name = Schema.Name.nestingPath name ∨ name ∈ keys) :
    (keys.foldl (fun nesting key => nesting.register key (Schema.Name.nestingPath key)) nesting).pathOf name =
      Schema.Name.nestingPath name := by
  induction keys generalizing nesting with
  | nil => simpa using known
  | cons key rest ih =>
      refine ih _ ?_
      rw [path_of_register]
      by_cases same : name = key
      · exact .inl (by rw [if_pos same, same])
      · rw [if_neg same]
        rcases known with known | member
        · exact .inl known
        · exact .inr ((List.mem_cons.mp member).resolve_left same)

theorem registered_source (settings : Settings) (schema : List DefinitionSource) (module : Module) (nesting : Nesting)
    (written : Written settings schema module.statement) (source : DefinitionSource) (present : source ∈ schema) :
    (registerModule settings nesting module).pathOf source.name = Schema.Name.nestingPath source.name := by
  refine path_of_register_all _ _ _ (.inr ?_)
  obtain ⟨assignment, member, key, _⟩ := (named_assignment settings module.statement _ _).mp (written.exports source present)
  exact List.mem_map.mpr ⟨assignment, member, key⟩

end SchemaRecovery.Recovery
