import SchemaRecovery.Proofs.Recovery.LastExport
import SchemaRecovery.Proofs.Recovery.Stages
import SchemaRecovery.Proofs.Schema.Path

set_option autoImplicit false

namespace SchemaRecovery.Recovery

open Script (Node)
open Schema (Catalog Definition Module Nesting PathOf path_of_iff registerKey register_all_lookup mem_children_registered)

section
variable (settings : Settings)

def exports (statement : Node) : List Assignment :=
  (statement.postorder.filterMap assignment?).filter fun assignment =>
    assignment.property ∉ settings.reservedProperties

def keysOf (statement : Node) : List String := (exports settings statement).map (exportKey settings)

structure Catalogued (module result : Module) : Prop where
  -- What the stage makes of a module, whatever it was before.
  name : result.name = module.name
  statement : result.statement = module.statement
  loads : result.loads = module.loads
  names : result.definitions.map (·.name) = (keysOf settings module.statement).reverse.eraseDups
  distinct : (result.definitions.map (·.name)).Nodup
  named : ∀ definition ∈ result.definitions, definition.name ≠ ""
  paths : ∀ definition ∈ result.definitions, PathOf definition.nestingPath definition.name
  bound : ∀ definition ∈ result.definitions, ∃ before last after,
    exports settings module.statement = before ++ last :: after ∧ exportKey settings last = definition.name ∧
      (∀ later ∈ after, exportKey settings later ≠ definition.name) ∧
      ∀ localName, definition.localName = some localName ↔ last.value = .identifier localName
  empty : ∀ definition ∈ result.definitions, definition.members = none

theorem named_assignments_exports (statement : Node) : namedAssignments settings statement = exports settings statement := by
  rw [namedAssignments, exports, Script.walk_postorder]
  refine List.filter_congr fun assignment _ => ?_
  simp

theorem keys_of_exported (module : Module) : exportedKeys settings module = keysOf settings module.statement := by
  rw [exportedKeys, named_assignments_exports, keysOf]

theorem catalog_module_catalogued (module : Module) : Catalogued settings module (catalogModule settings module) where
  name := rfl
  statement := rfl
  loads := rfl
  names := by rw [catalog_module_names, named_assignments_exports, keysOf]
  distinct := catalogued_names settings module
  named := by
    intro definition member
    obtain ⟨assignment, ⟨before, after, split, _⟩, rfl⟩ := (mem_catalogued settings module definition).mp member
    exact export_key_named settings module.statement assignment (split ▸ List.mem_append_right _ List.mem_cons_self)
  paths := by
    intro definition member
    obtain ⟨assignment, _, rfl⟩ := (mem_catalogued settings module definition).mp member
    exact (path_of_iff _ _).mpr rfl
  bound := by
    intro definition member
    obtain ⟨last, ⟨before, after, split, others⟩, rfl⟩ := (mem_catalogued settings module definition).mp member
    rw [named_assignments_exports] at split
    exact ⟨before, last, after, split, rfl, others, node_named last.value⟩
  empty := by
    intro definition member
    obtain ⟨assignment, _, rfl⟩ := (mem_catalogued settings module definition).mp member
    rfl

def Exporting (catalog : Catalog) (key : String) : Prop :=
  ∃ module ∈ catalog.modules, key ∈ keysOf settings module.statement

theorem catalogue_nesting (catalog : Catalog) :
    (catalogue settings catalog).nesting =
      (catalog.modules.flatMap fun module => keysOf settings module.statement).foldl registerKey catalog.nesting := by
  have keys : exportedKeys settings = fun module => keysOf settings module.statement := funext (keys_of_exported settings)
  rw [catalogue, register_modules, keys]

theorem exports_catalogued (catalog : Catalog) :
    List.Forall₂ (Catalogued settings) catalog.modules (catalogue settings catalog).modules ∧
      (∀ key, Exporting settings catalog key →
        ∃ path, (catalogue settings catalog).nesting.paths.lookup key = some path ∧ PathOf path key) ∧
      (∀ key, ¬ Exporting settings catalog key →
        (catalogue settings catalog).nesting.paths.lookup key = catalog.nesting.paths.lookup key) ∧
      (catalog.nesting = {} → ∀ path, path ≠ "" →
        ((catalogue settings catalog).nesting.childrenOf path).Pairwise (· < ·) ∧
          ∀ key, key ∈ (catalogue settings catalog).nesting.childrenOf path ↔
            Exporting settings catalog key ∧ PathOf path key) := by
  have exporting (key : String) : Exporting settings catalog key ↔
      key ∈ catalog.modules.flatMap fun module => keysOf settings module.statement := List.mem_flatMap.symm
  refine ⟨?_, fun key exported => ?_, fun key absent => ?_, fun empty path nested => ⟨?_, fun key => ?_⟩⟩
  · exact List.forall₂_map_right_iff.mpr (List.forall₂_same.mpr fun module _ => catalog_module_catalogued settings module)
  · rw [catalogue_nesting, register_all_lookup, if_pos ((exporting key).mp exported)]
    exact ⟨_, rfl, (path_of_iff _ key).mpr rfl⟩
  · rw [catalogue_nesting, register_all_lookup, if_neg (mt (exporting key).mpr absent)]
  · exact Schema.sorted_names_strict _
  · rw [catalogue_nesting, empty, mem_children_registered _ path key nested, exporting]

end

namespace Nested
open Report

def inner (value : Node) : Assignment := ⟨.identifier "i", "Outer$InnerSpec", value⟩

def nested : Module where
  name := "Nested"
  statement := .block [assign "i" "Outer$InnerSpec" (.identifier "k"), assign "i" "OuterSpec" (.identifier "c"),
    assign "i" "Outer$InnerSpec" (.object [])]

theorem nested_exports : exports {} nested.statement =
    [inner (.identifier "k"), ⟨.identifier "i", "OuterSpec", .identifier "c"⟩, inner (.object [])] := by
  rw [exports, nested]
  simp [Node.postorder_eq, Node.children, assign]
  rfl

theorem nested_keys : keysOf {} nested.statement = ["Outer$Inner", "Outer", "Outer$Inner"] := by
  rw [keysOf, nested_exports]
  decide

def bundle : Catalog := { modules := [nested] }

theorem nested_exporting (key : String) : Exporting {} bundle key ↔ key = "Outer$Inner" ∨ key = "Outer" := by
  simp only [Exporting, bundle, exists_eq_left, nested_keys, List.mem_cons, List.not_mem_nil, or_false]
  tauto

theorem nested_last (last : Assignment) (stands : Stands {} nested.statement last)
    (key : exportKey {} last = "Outer$Inner") : last = inner (.object []) := by
  have found := (last_export_stands {} nested.statement _ last).mpr ⟨key, stands⟩
  rw [named_assignments_exports, nested_exports] at found
  exact (Option.some.inj found).symm

end Nested

open Nested in
theorem exports_catalogued_nested :
    bundle.nesting = {} ∧ Exporting {} bundle "Outer$Inner" ∧ ¬ Exporting {} bundle "Other" ∧
      (catalogue {} bundle).nesting.pathOf "Outer$Inner" = "Outer" ∧
      (catalogue {} bundle).nesting.paths.lookup "Other" = none ∧
      (catalogue {} bundle).nesting.childrenOf "Outer" = ["Outer$Inner"] ∧
      ∀ result ∈ (catalogue {} bundle).modules, result.definitions.map (·.name) = ["Outer$Inner", "Outer"] ∧
        ∀ definition ∈ result.definitions, definition.name = "Outer$Inner" → definition.localName = none := by
  obtain ⟨modules, paths, others, children⟩ := exports_catalogued {} bundle
  obtain ⟨ascending, below⟩ := children rfl "Outer" (by decide)
  have exported : Exporting {} bundle "Outer$Inner" := (nested_exporting _).mpr (.inl rfl)
  have foreign : ¬ Exporting {} bundle "Other" := mt (nested_exporting _).mp (by decide)
  obtain ⟨path, found, before⟩ := paths "Outer$Inner" exported
  refine ⟨rfl, exported, foreign, ?_, others "Other" foreign, ?_, ?_⟩
  · rw [Nesting.pathOf, found, ← (path_of_iff _ _).mp before]
    decide
  · refine Schema.ascending_unique _ _ ascending (List.pairwise_singleton _ _) fun key => ?_
    rw [below, nested_exporting, path_of_iff, List.mem_singleton]
    constructor
    · rintro ⟨rfl | rfl, path⟩
      · rfl
      · exact absurd path (by decide)
    · rintro rfl
      exact ⟨.inl rfl, by decide⟩
  · intro result member
    rw [List.mem_singleton.mp member]
    have catalogued := (List.forall₂_cons.mp modules).1
    refine ⟨?_, fun definition inside named => ?_⟩
    · rw [catalogued.names, nested_keys]
      decide
    · obtain ⟨before, last, after, split, key, final, bound⟩ := catalogued.bound definition inside
      rw [← key] at final
      have only := nested_last last ⟨before, after, (named_assignments_exports {} _).trans split, final⟩ (key.trans named)
      refine Option.eq_none_iff_forall_ne_some.mpr fun localName same => ?_
      have value := (bound localName).mp same
      rw [only] at value
      cases value

end SchemaRecovery.Recovery
