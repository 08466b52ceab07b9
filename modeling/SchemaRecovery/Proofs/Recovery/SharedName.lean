import SchemaRecovery.Proofs.Recovery.EnumAgreement
import SchemaRecovery.Proofs.Recovery.Ownership

set_option autoImplicit false

namespace SchemaRecovery.Recovery

open Script (Node)
open Schema (Catalog Definition Module)
open Proto (Layout placedNames)

def LastFields (settings : Settings) (statement : Node) (localName : String) (properties : List Node) : Prop :=
  ∃ earlier later, specTables settings statement = earlier ++ ⟨.identifier localName, properties⟩ :: later ∧
    enumValues? (.object properties) = none ∧
    ∀ other ∈ later, other.target = .identifier localName → enumValues? (.object other.properties) ≠ none

structure Shares (scope : Scope) (localName : String) (properties : List Node) (old new : Definition) : Prop where
  fields : new.members = some (resolveMembers scope old.name properties).1 ↔
    FirstBound scope.module localName old ∨ old.members = some (resolveMembers scope old.name properties).1
  message : old.members = none → (new.isMessage = true ↔ FirstBound scope.module localName old)
  others : ¬ FirstBound scope.module localName old → new = old

theorem last_fields_some (settings : Settings) (statement : Node) (localName : String)
    (some : ∃ table ∈ specTables settings statement, table.target = .identifier localName ∧
      enumValues? (.object table.properties) = none) :
    ∃ properties, LastFields settings statement localName properties := by
  obtain ⟨earlier, ⟨target, properties⟩, later, split, ⟨named, fielded⟩, last⟩ := last_of_some _ _ some
  dsimp only at named
  subst named
  refine ⟨properties, earlier, later, split, fielded, fun other member same uncounted => ?_⟩
  exact last other member ⟨same, uncounted⟩

section Module
variable (scope : Scope) (distinct : (scope.module.definitions.map (·.name)).Nodup) (definition : Definition)
  (member : definition ∈ scope.module.definitions) (localName : String) (properties : List Node)
include distinct member

theorem settled_members_last (first : FirstBound scope.module localName definition)
    (last : LastFields scope.settings scope.module.statement localName properties) :
    settledMembers scope (tablesOf scope.settings scope.module definition.name) definition =
      some (resolveMembers scope definition.name properties).1 := by
  obtain ⟨earlier, later, split, fielded, behind⟩ := last
  have own := (owner_name_iff scope.module distinct definition member ⟨.identifier localName, properties⟩).mpr
    ⟨localName, rfl, first⟩
  have passed : (later.filter fun table => ownerName? scope.module table = some definition.name).reverse.findSome?
      (·.members? scope definition.name) = none := by
    rw [List.findSome?_eq_none_iff]
    intro other listed
    obtain ⟨listed, owned⟩ := List.mem_filter.mp (List.mem_reverse.mp listed)
    obtain ⟨otherName, target, bound⟩ :=
      (owner_name_iff scope.module distinct definition member other).mp (of_decide_eq_true owned)
    have here := first_bound_name _ _ _ first
    obtain rfl : otherName = localName := Option.some.inj ((first_bound_name _ _ _ bound).symm.trans here)
    exact (members_read_none _ _ _).mpr (behind other listed target)
  have read : SpecTable.members? scope definition.name ⟨.identifier localName, properties⟩ =
      some (resolveMembers scope definition.name properties).1 := by
    rw [SpecTable.members?, SpecTable.values?, fielded]
  rw [settledMembers, tablesOf, split, List.filter_append, List.filter_cons_of_pos (by simpa using own),
    List.reverse_append, List.reverse_cons, List.append_assoc, List.findSome?_append, passed, Option.none_or,
    List.singleton_append, List.findSome?_cons, read, Option.some_or]

theorem settled_shares (bound : definition.localName = some localName)
    (last : LastFields scope.settings scope.module.statement localName properties) :
    Shares scope localName properties definition
      (settled scope (tablesOf scope.settings scope.module definition.name) definition) := by
  by_cases first : FirstBound scope.module localName definition
  · have filled : (settled scope (tablesOf scope.settings scope.module definition.name) definition).members =
        some (resolveMembers scope definition.name properties).1 :=
      settled_members_last scope distinct definition member localName properties first last
    exact ⟨iff_of_true filled (.inl first), fun _ => iff_of_true (by rw [Definition.isMessage, filled]; rfl) first,
      fun other => absurd first other⟩
  · have same : settled scope (tablesOf scope.settings scope.module definition.name) definition = definition := by
      refine settled_untabled scope.settings scope.module distinct definition member scope ?_
      intro table _ otherName _ other
      obtain rfl : otherName = localName := Option.some.inj ((first_bound_name _ _ _ other).symm.trans bound)
      exact first other
    rw [same]
    refine ⟨by simp [first], fun unread => iff_of_false ?_ first, fun _ => rfl⟩
    rw [Definition.isMessage, unread]
    exact Bool.false_ne_true

end Module

/-- Of the exports that share a local name exactly the first one gets the fields of its last table. -/
theorem shared_fields_first (settings : Settings) (catalog result : Catalog)
    (keyed : ∀ module ∈ catalog.modules, (module.definitions.map (·.name)).Nodup)
    (resolved : resolve settings catalog = .ok result) :
    List.Forall₂ (fun before after => ∀ localName,
        (∃ table ∈ specTables settings before.statement, table.target = .identifier localName ∧
          enumValues? (.object table.properties) = none) →
        ∃ properties, LastFields settings before.statement localName properties ∧
          List.Forall₂ (fun old new => old.localName = some localName →
              Shares ⟨settings, catalog.modules, before⟩ localName properties old new)
            before.definitions after.definitions)
      catalog.modules result.modules := by
  rw [(resolve_result settings catalog result resolved).1, List.forall₂_map_right_iff, List.forall₂_same]
  intro module member localName some
  have distinct := keyed module member
  obtain ⟨properties, last⟩ := last_fields_some settings module.statement localName some
  refine ⟨properties, last, ?_⟩
  rw [resolve_module_settled settings catalog.modules module distinct, reading, List.forall₂_map_right_iff,
    List.forall₂_same]
  exact fun definition listed bound =>
    settled_shares ⟨settings, catalog.modules, module⟩ distinct definition listed localName properties bound last

namespace Shared
open Report Hidden

def shared : Module where
  name := "A"
  statement := .block [assign "c" "internalSpec" (.object numberTable), assign "i" "ASpec" (.identifier "c"),
    assign "i" "BSpec" (.identifier "c")]

def shell (name : String) : Definition :=
  { name := name, localName := some "c", module := some "A" }

def filled : Definition :=
  { shell "B" with members := some [.field { name := "x", id := some 1, type := some "int32" }] }

def recovered : Catalog where
  modules := [{ shared with definitions := [filled, shell "A"] }]
  nesting := { paths := [("A", ""), ("B", "")] }

theorem shared_assignments : (Script.walk shared.statement).filterMap assignment? =
    [⟨.identifier "c", "internalSpec", .object numberTable⟩, ⟨.identifier "i", "ASpec", .identifier "c"⟩,
      ⟨.identifier "i", "BSpec", .identifier "c"⟩] := by
  simp [Script.walk, Script.walkStack, Script.Pending.ofNode, shared, assign, numberTable, entry, token, whole,
    Node.children]
  rfl

theorem shared_tables : specTables {} shared.statement = [⟨.identifier "c", numberTable⟩] := by
  rw [spec_tables_of_assignments, shared_assignments]
  rfl

theorem shared_catalogued : catalogModule {} shared = { shared with definitions := [shell "B", shell "A"] } := by
  have enums : enumTables {} shared.statement = [] := by
    simp [enumTables, Script.trails, Script.walkTrails, Script.stepsOf, shared, assign, numberTable, entry, token,
      whole, Node.children, List.mapIdx_cons]
    rfl
  rw [catalogModule, enums, namedAssignments, shared_assignments]
  simp [Settings.reservedProperties, shells, exportKey]
  decide

theorem shared_resolved : resolve {} (catalogue {} { modules := [shared] }) = .ok recovered := by
  have registered : registerModule {} {} shared = { paths := [("A", ""), ("B", "")] } := by
    rw [registerModule, namedAssignments, shared_assignments]
    simp [Settings.reservedProperties, exportKey]
    decide
  have owner : SpecTable.owner? ⟨.identifier "c", numberTable⟩ { shared with definitions := [shell "B", shell "A"] } =
      some (shell "B") := rfl
  simp only [resolve, catalogue, List.map_cons, List.map_nil, shared_catalogued, Resolved.ofCatalog, resolveModule,
    shared_tables, List.foldl_cons, List.foldl_nil, registered, resolveStep, owner, number_table_read]
  rfl

theorem recovered_placements : (Layout.ofCatalog recovered).placements =
    ["A", "B"].map (Proto.placeName recovered.byName recovered.nesting) := by
  have names : placedNames recovered = ([["A"], ["B"]].flatMap List.reverse).eraseDups := by
    refine Proto.placed_names_eq recovered ["A", "B"] _ (by decide) ?_ ?_
    · intro name
      simp [Proto.Defined, Catalog.definitions, recovered, filled, shell, eq_comm, or_comm]
    · exact .cons (.top _ (by decide)) (.cons (.top _ (by decide)) .nil)
  rw [Proto.placements_eq, names]
  rfl

theorem second_export_unknown : resolve {} (catalogue {} { modules := [shared] }) = .ok recovered ∧
    LastFields {} shared.statement "c" numberTable ∧ shell "A" ∈ recovered.definitions ∧
    (shell "A").localName = some "c" ∧ (shell "A").isShell = true ∧
    ∃ block ∈ (Layout.ofCatalog recovered).blocks, block.name = "A" ∧ block.definition = shell "A" ∧
      block.lines (Layout.ofCatalog recovered) "  " = ["// Unknown entity A"] := by
  -- The second export is bound to the builder as the first one is, and is printed as unknown.
  refine ⟨shared_resolved, ⟨[], [], shared_tables, rfl, nofun⟩, by simp [Catalog.definitions, recovered], rfl, rfl,
    .node (shell "A") "A" [], ?_, rfl, rfl, rfl⟩
  rw [Layout.blocks, recovered_placements]
  exact List.mem_cons_self

end Shared

open Shared in
theorem shared_fields_first_shared :
    (∀ module ∈ (catalogue {} { modules := [shared] }).modules, (module.definitions.map (·.name)).Nodup) ∧
      resolve {} (catalogue {} { modules := [shared] }) = .ok recovered ∧
      (∃ table ∈ specTables {} shared.statement, table.target = .identifier "c" ∧
        enumValues? (.object table.properties) = none) ∧
      FirstBound { shared with definitions := [shell "B", shell "A"] } "c" (shell "B") ∧
      ¬ FirstBound { shared with definitions := [shell "B", shell "A"] } "c" (shell "A") := by
  have keyed := catalogue_keyed {} { modules := [shared] }
  have fielded : ∃ table ∈ specTables {} shared.statement, table.target = .identifier "c" ∧
      enumValues? (.object table.properties) = none := by
    rw [shared_tables]
    exact ⟨_, List.mem_cons_self, rfl, rfl⟩
  have catalogued : (catalogue {} { modules := [shared] }).modules =
      [{ shared with definitions := [shell "B", shell "A"] }] := congrArg (fun module => [module]) shared_catalogued
  have modules := shared_fields_first {} _ recovered keyed shared_resolved
  rw [catalogued] at modules
  obtain ⟨properties, _, definitions⟩ := (List.forall₂_cons.mp modules).1 "c" fielded
  obtain ⟨first, others⟩ := List.forall₂_cons.mp definitions
  obtain ⟨second, _⟩ := List.forall₂_cons.mp others
  refine ⟨keyed, shared_resolved, fielded, ((first rfl).message rfl).mp rfl, fun bound => ?_⟩
  exact absurd (((second rfl).message rfl).mpr bound) (by decide)

end SchemaRecovery.Recovery
