import SchemaRecovery.Proofs.Recovery.Ownership

set_option autoImplicit false

namespace SchemaRecovery.Recovery

open Script (Node)
open Schema (Catalog Definition Module Warning)

def Assigned (settings : Settings) (module : Module) (target : Node) : Prop :=
  ∃ node ∈ Script.walk module.statement, ∃ properties,
    assignment? node = some ⟨target, settings.specProperty, .object properties⟩

structure Mismatched (settings : Settings) (catalog : Catalog) : Prop where
  assigned : ∃ module ∈ catalog.modules, ∃ target, Assigned settings module target
  unmatched : ∀ module ∈ catalog.modules, ∀ target, Assigned settings module target → Unmatched module target

structure DefinitionFrame (settings : Settings) (module : Module) (old new : Definition) : Prop where
  name : new.name = old.name
  localName : new.localName = old.localName
  nestingPath : new.nestingPath = old.nestingPath
  owner : new.module = old.module
  untabled : (∀ localName, Assigned settings module (.identifier localName) → ¬ FirstBound module localName old) →
    new = old

structure ModuleFrame (settings : Settings) (old new : Module) : Prop where
  name : new.name = old.name
  statement : new.statement = old.statement
  loads : new.loads = old.loads
  definitions : List.Forall₂ (DefinitionFrame settings old) old.definitions new.definitions

def unmatchedTables (settings : Settings) (module : Module) : List SpecTable :=
  (specTables settings module.statement).filter fun table => Unmatched module table.target

structure CatalogFrame (settings : Settings) (old new : Catalog) : Prop where
  modules : List.Forall₂ (ModuleFrame settings) old.modules new.modules
  nesting : new.nesting = old.nesting
  warnings : ∃ added, new.warnings = old.warnings ++ added ∧
    added.filter (·.kind = "unknown_spec_target") = old.modules.flatMap fun module =>
      (unmatchedTables settings module).map fun table => unknownTarget module.name table.target.text

theorem assigned_iff (settings : Settings) (module : Module) (target : Node) :
    Assigned settings module target ↔ ∃ table ∈ specTables settings module.statement, table.target = target := by
  simp only [Assigned, mem_spec_tables]
  constructor
  · rintro ⟨node, visited, properties, assigned⟩
    exact ⟨⟨target, properties⟩, ⟨node, visited, assigned⟩, rfl⟩
  · rintro ⟨table, ⟨node, visited, assigned⟩, rfl⟩
    exact ⟨node, visited, _, assigned⟩

theorem forall_assigned_iff (settings : Settings) (module : Module) (holds : Node → Prop) :
    (∀ target, Assigned settings module target → holds target) ↔
      ∀ table ∈ specTables settings module.statement, holds table.target := by
  simp only [assigned_iff, forall_exists_index, and_imp, forall_apply_eq_imp_iff₂]

theorem counted_none {α : Type} (count : α → Nat) (items : List α) (start : Nat) :
    items.foldl (fun sum item => sum + count item) start = 0 ↔ start = 0 ∧ ∀ item ∈ items, count item = 0 := by
  induction items generalizing start with
  | nil => simp
  | cons first rest ih => rw [List.foldl_cons, ih, Nat.add_eq_zero_iff, and_assoc, List.forall_mem_cons]

section Catalog
variable (settings : Settings) (catalog : Catalog)
  (keyed : ∀ module ∈ catalog.modules, (module.definitions.map (·.name)).Nodup)

theorem tables_none : (Resolved.ofCatalog settings catalog).tables = 0 ↔
    ∀ module ∈ catalog.modules, ∀ target, ¬ Assigned settings module target := by
  rw [Resolved.ofCatalog, counted_none, eq_self, true_and]
  refine forall₂_congr fun module _ => ?_
  rw [List.length_eq_zero_iff, List.eq_nil_iff_forall_not_mem]
  exact (forall_assigned_iff settings module fun _ => False).symm

include keyed in
theorem matched_none : (Resolved.ofCatalog settings catalog).matched = 0 ↔
    ∀ module ∈ catalog.modules, ∀ target, Assigned settings module target → Unmatched module target := by
  rw [Resolved.matched, counted_none, eq_self, true_and, Resolved.ofCatalog, List.forall_mem_map]
  refine forall₂_congr fun module member => ?_
  rw [resolve_module_settled settings catalog.modules module (keyed module member), List.countP_eq_zero,
    forall_assigned_iff]
  simp only [Option.not_isSome_iff_eq_none, owner_name_none_iff]

include keyed in
theorem fails_iff : (Resolved.ofCatalog settings catalog).fails = true ↔ Mismatched settings catalog := by
  have some : (Resolved.ofCatalog settings catalog).tables ≠ 0 ↔
      ∃ module ∈ catalog.modules, ∃ target, Assigned settings module target := by
    rw [Ne, tables_none]
    push Not
    rfl
  rw [Resolved.fails, Bool.and_eq_true, decide_eq_true_eq, decide_eq_true_eq, some,
    matched_none settings catalog keyed]
  constructor
  · rintro ⟨assigned, unmatched⟩
    exact ⟨assigned, unmatched⟩
  · rintro ⟨assigned, unmatched⟩
    exact ⟨assigned, unmatched⟩

end Catalog

theorem table_unknown_target (scope : Scope) (table : SpecTable) :
    ((tableNotices scope table).filterMap (·.warning?)).filter (·.kind = "unknown_spec_target") =
      if Unmatched scope.module table.target then [unknownTarget scope.module.name table.target.text] else [] := by
  unfold tableNotices
  cases owner : ownerName? scope.module table with
  | none =>
      rw [if_pos ((owner_name_none_iff _ _).mp owner)]
      rfl
  | some name =>
      have matched : ¬ Unmatched scope.module table.target := by
        rw [← owner_name_none_iff, owner]
        exact Option.some_ne_none name
      -- What is noted while a table is read is of other kinds.
      rw [if_neg matched, List.filter_eq_nil_iff]
      intro warning listed unknown
      have usual : warning.kind ∈ tableKinds :=
        table_notice_kinds scope { name := name } table.properties warning listed
      rw [of_decide_eq_true unknown] at usual
      exact absurd usual (by decide)

theorem module_unknown_targets (settings : Settings) (modules : List Module) (module : Module)
    (distinct : (module.definitions.map (·.name)).Nodup) :
    ((resolveModule settings modules module).notices.filterMap (·.warning?)).filter (·.kind = "unknown_spec_target") =
      (unmatchedTables settings module).map fun table => unknownTarget module.name table.target.text := by
  rw [resolve_module_settled settings modules module distinct, unmatchedTables]
  induction specTables settings module.statement with
  | nil => rfl
  | cons first rest ih =>
      rw [List.flatMap_cons, List.filterMap_append, List.filter_append, ih, table_unknown_target]
      by_cases unmatched : Unmatched module first.target <;> simp [unmatched]

theorem collision_kinds (modules : List Module) :
    (collisions modules).filter (·.kind = "unknown_spec_target") = [] := by
  rw [List.filter_eq_nil_iff]
  intro warning listed unknown
  obtain ⟨name, _, rfl⟩ := (mem_collisions modules warning).mp listed
  have same : "name_collision" = "unknown_spec_target" := of_decide_eq_true unknown
  exact absurd same (by decide)

theorem module_frame (settings : Settings) (modules : List Module) (module : Module)
    (distinct : (module.definitions.map (·.name)).Nodup) :
    ModuleFrame settings module (resolveModule settings modules module).module := by
  rw [resolve_module_settled settings modules module distinct]
  refine ⟨rfl, rfl, rfl, ?_⟩
  rw [reading, List.forall₂_map_right_iff, List.forall₂_same]
  refine fun definition member => ⟨rfl, rfl, rfl, rfl, fun untabled => ?_⟩
  refine settled_untabled settings module distinct definition member _ fun table listed localName target => ?_
  exact untabled localName ((assigned_iff settings module _).mpr ⟨table, listed, target⟩)

theorem catalog_frame (settings : Settings) (catalog result : Catalog)
    (keyed : ∀ module ∈ catalog.modules, (module.definitions.map (·.name)).Nodup)
    (resolved : resolve settings catalog = .ok result) : CatalogFrame settings catalog result := by
  obtain ⟨modules, nesting, warnings⟩ := resolve_result settings catalog result resolved
  refine ⟨?_, nesting, _, warnings, ?_⟩
  · rw [modules, List.forall₂_map_right_iff, List.forall₂_same]
    exact fun module member => module_frame settings catalog.modules module (keyed module member)
  · rw [List.filter_append, collision_kinds, List.append_nil, List.filterMap_flatMap, List.filter_flatMap]
    exact List.flatMap_congr fun module member =>
      module_unknown_targets settings catalog.modules module (keyed module member)

/-- The reading of tables fails only where there are tables and none of them is for anything.
Otherwise it changes what the tables are for and nothing else, and names each table that is for
nothing. -/
theorem resolve_fails_iff (settings : Settings) (catalog : Catalog)
    (keyed : ∀ module ∈ catalog.modules, (module.definitions.map (·.name)).Nodup) :
    ((∃ why, resolve settings catalog = .error why) ↔ Mismatched settings catalog) ∧
      (¬ Mismatched settings catalog →
        ∃ result, resolve settings catalog = .ok result ∧ CatalogFrame settings catalog result) := by
  rw [← fails_iff settings catalog keyed]
  cases fails : (Resolved.ofCatalog settings catalog).fails with
  | true =>
      have failed : resolve settings catalog =
          .error ⟨(Resolved.ofCatalog settings catalog).tables, settings.specProperty⟩ := if_pos fails
      exact ⟨iff_of_true ⟨_, failed⟩ rfl, fun absent => absurd rfl absent⟩
  | false =>
      obtain ⟨result, resolved⟩ : ∃ result, resolve settings catalog = .ok result := ⟨_, if_neg (by simp [fails])⟩
      refine ⟨iff_of_false ?_ Bool.false_ne_true, fun _ => ⟨result, resolved, ?_⟩⟩
      · rintro ⟨why, failed⟩
        rw [resolved] at failed
        cases failed
      · exact catalog_frame settings catalog result keyed resolved

open Hidden in
theorem resolve_fails_iff_tabled :
    (∀ module ∈ [tabled], (module.definitions.map (·.name)).Nodup) ∧
      (∃ why, resolve {} { modules := [tabled] } = .error why) ∧
      (∀ module ∈ (catalogue {} { modules := [tabled, untabled] }).modules, (module.definitions.map (·.name)).Nodup) ∧
      ¬ Mismatched {} (catalogue {} { modules := [tabled, untabled] }) ∧
      CatalogFrame {} (catalogue {} { modules := [tabled, untabled] }) Hidden.hidden := by
  have bare : ∀ module ∈ [tabled], (module.definitions.map (·.name)).Nodup := by
    simp [tabled]
  have keyed := catalogue_keyed {} { modules := [tabled, untabled] }
  have mismatched : Mismatched {} { modules := [tabled] } := by
    refine ⟨⟨tabled, List.mem_cons_self, .identifier "c", ?_⟩, ?_⟩
    · rw [assigned_iff, module_tables.1]
      exact ⟨_, List.mem_cons_self, rfl⟩
    · intro module member target _ localName _ definition bound
      rw [List.mem_singleton.mp member] at bound
      cases bound
  obtain ⟨fails, frame⟩ := resolve_fails_iff {} (catalogue {} { modules := [tabled, untabled] }) keyed
  have matched : ¬ Mismatched {} (catalogue {} { modules := [tabled, untabled] }) := by
    intro mismatched
    obtain ⟨why, failed⟩ := fails.mpr mismatched
    rw [hidden_resolved.1] at failed
    cases failed
  obtain ⟨result, resolved, framed⟩ := frame matched
  rw [hidden_resolved.1] at resolved
  cases resolved
  exact ⟨bare, (resolve_fails_iff {} _ bare).1.mpr mismatched, keyed, matched, framed⟩

end SchemaRecovery.Recovery
