import SchemaRecovery.Proofs.Recovery.Settled

set_option autoImplicit false

namespace SchemaRecovery.Recovery

open Script (Node Trail)
open Schema (Catalog Definition EnumValue Module)

structure Agrees (settings : Settings) (module : Module) (before after : Definition) : Prop where
  -- A definition of a module before and after the tables of the module are read. What the second
  -- stage recorded stays. Where all tables are literals these are the values of the last literal
  -- that is not passed over, which is the last one of all unless that one is passed over.
  name : after.name = before.name
  localName : after.localName = before.localName
  values : after.enumValues = before.enumValues
  message : ∀ table ∈ tablesOf settings module before.name, table.values? = none → after.isMessage = true
  enum : (∃ table, table ∈ tablesOf settings module before.name) →
    (∀ table ∈ tablesOf settings module before.name, table.values? ≠ none) → after.isEnum = true ∧
      ∃ localName bound last read place, before.localName = some localName ∧
        LastLiteral module.statement (BoundLiteral settings localName) bound last ∧
        LastLiteral module.statement (ReadLiteral settings localName) read place ∧
        after.enumValues = some read ∧ (after.enumValues = some bound ↔ ¬ PassedOver bound last ∨ read = bound)

theorem last_of_some {α : Type} (holds : α → Prop) (items : List α) (some : ∃ item ∈ items, holds item) :
    ∃ before item after, items = before ++ item :: after ∧ holds item ∧ ∀ later ∈ after, ¬ holds later := by
  induction items with
  | nil =>
      obtain ⟨_, absent, _⟩ := some
      cases absent
  | cons first rest ih =>
      by_cases further : ∃ item ∈ rest, holds item
      · obtain ⟨before, item, after, split, found, others⟩ := ih further
        exact ⟨first :: before, item, after, by rw [split]; rfl, found, others⟩
      · obtain ⟨item, member, found⟩ := some
        rcases List.mem_cons.mp member with rfl | later
        · exact ⟨[], item, rest, rfl, found, fun other listed held => further ⟨other, listed, held⟩⟩
        · exact absurd ⟨item, later, found⟩ further

section Literals
variable (settings : Settings) (statement : Node) (localName : String)

theorem last_literals (values : List EnumValue)
    (recorded : (enumTables settings statement).lookup localName = some values) :
    ∃ bound last, LastLiteral statement (BoundLiteral settings localName) bound last ∧
      (¬ PassedOver bound last → values = bound) := by
  obtain ⟨trail, before, after, split, read, _⟩ := (enum_tables_last settings statement localName values).mp recorded
  obtain ⟨earlier, last, later, order, ⟨bound, literal⟩, others⟩ :=
    last_of_some (fun trail => ∃ bound, BoundLiteral settings localName bound trail) (Script.trails statement)
      ⟨trail, by simp [split], values, read.1⟩
  have unbound : ∀ other ∈ later, ∀ values, ¬ BoundLiteral settings localName values other :=
    fun other listed values held => others other listed ⟨values, held⟩
  refine ⟨bound, last, ⟨earlier, later, order, literal, unbound⟩, fun counted => ?_⟩
  have same := (enum_tables_last settings statement localName bound).mpr
    ⟨last, earlier, later, order, ⟨literal, counted⟩, fun other listed values held => unbound other listed values held.1⟩
  exact Option.some.inj (recorded.symm.trans same)

theorem table_recorded (table : SpecTable) (listed : table ∈ specTables settings statement)
    (target : table.target = .identifier localName) (values : List EnumValue) (counted : table.values? = some values) :
    ∃ recorded, (enumTables settings statement).lookup localName = some recorded := by
  obtain ⟨node, visited, assigned⟩ := (mem_spec_tables settings statement table).mp listed
  rw [target] at assigned
  obtain ⟨trail, present, read⟩ := literal_of_table settings statement node visited localName table.properties assigned
    values counted
  cases found : (enumTables settings statement).lookup localName with
  | none => exact absurd read ((enum_tables_none settings statement localName).mp found trail present values)
  | some recorded => exact ⟨recorded, rfl⟩

theorem literal_visited (place : Nat) (trail : Trail) (present : trail ∈ (Script.trails statement).drop place)
    (values : List EnumValue) (literal : BoundLiteral settings localName values trail) :
    ∃ properties, .object properties ∈ (Script.walk statement).drop place := by
  have visited : trail.head?.map (·.node) ∈ ((Script.walk statement).drop place).map some := by
    rw [List.map_drop, ← Script.trails_walk, ← List.map_drop]
    exact List.mem_map_of_mem present
  obtain ⟨node, member, same⟩ := List.mem_map.mp visited
  obtain ⟨properties, body, _⟩ := literal
  have found : node = .object properties := by cases body <;> exact Option.some.inj same
  exact ⟨properties, found ▸ member⟩

end Literals

section Module
variable (settings : Settings) (module : Module) (definition : Definition)
  (member : definition ∈ (catalogModule settings module).definitions)
include member

theorem table_received (table : SpecTable)
    (received : table ∈ tablesOf settings (catalogModule settings module) definition.name) :
    ∃ localName, definition.localName = some localName ∧ table.target = .identifier localName ∧
      table ∈ specTables settings module.statement := by
  obtain ⟨listed, owned⟩ := List.mem_filter.mp received
  obtain ⟨owner, found, named⟩ := Option.map_eq_some_iff.mp (of_decide_eq_true owned)
  obtain ⟨present, localName, target, bound⟩ := owner_found table _ owner found
  obtain rfl := List.inj_on_of_nodup_map (catalogued_names settings module) present member named
  exact ⟨localName, bound, target, listed⟩

theorem received_recorded (table : SpecTable)
    (received : table ∈ tablesOf settings (catalogModule settings module) definition.name) (values : List EnumValue)
    (counted : table.values? = some values) :
    definition.hasValues = true ∧ ∃ localName recorded, definition.localName = some localName ∧
      definition.enumValues = some recorded ∧ (enumTables settings module.statement).lookup localName = some recorded := by
  obtain ⟨localName, bound, target, listed⟩ := table_received settings module definition member table received
  obtain ⟨recorded, known⟩ := table_recorded settings module.statement localName table listed target values counted
  have held := catalogued_values settings module localName recorded known definition member bound
  have filled := enum_tables_some settings module.statement localName recorded known
  exact ⟨values_known definition recorded held filled, localName, recorded, bound, held, known⟩

theorem received_values :
    settledValues (tablesOf settings (catalogModule settings module) definition.name) definition = definition.enumValues := by
  by_cases known : definition.hasValues = true
  · exact if_pos known
  · rw [settledValues, if_neg known]
    cases found : (tablesOf settings (catalogModule settings module) definition.name).findSome? (·.values?) with
    | none => rfl
    | some values =>
        obtain ⟨table, received, counted⟩ := List.exists_of_findSome?_eq_some found
        exact absurd (received_recorded settings module definition member table received values counted).1 known

theorem settled_agrees (modules : List Module) :
    Agrees settings (catalogModule settings module) definition
      (settled ⟨settings, modules, catalogModule settings module⟩
        (tablesOf settings (catalogModule settings module) definition.name) definition) := by
  generalize becomes : settled ⟨settings, modules, catalogModule settings module⟩
    (tablesOf settings (catalogModule settings module) definition.name) definition = after
  have values : after.enumValues = definition.enumValues :=
    becomes ▸ received_values settings module definition member
  -- No definition has members before its tables are read.
  have members : after.members =
      (tablesOf settings (catalogModule settings module) definition.name).reverse.findSome?
        (·.members? ⟨settings, modules, catalogModule settings module⟩ definition.name) := by
    obtain ⟨_, _, linked⟩ := catalogued_cases settings module definition member
    have unread : definition.members = none := by rw [linked]; rfl
    rw [← becomes, settled, settledMembers, unread, Option.or_none]
  refine ⟨becomes ▸ rfl, becomes ▸ rfl, values, ?_, ?_⟩
  · intro table received uncounted
    rw [Definition.isMessage, members, Option.isSome_iff_ne_none]
    intro none
    have passed := List.findSome?_eq_none_iff.mp none table (List.mem_reverse.mpr received)
    exact (members_read_none _ _ _).mp passed uncounted
  · rintro ⟨table, received⟩ counted
    obtain ⟨given, read⟩ := Option.ne_none_iff_exists'.mp (counted table received)
    obtain ⟨known, localName, recorded, bound, held, listed⟩ :=
      received_recorded settings module definition member table received given read
    have unread : after.members = none := by
      rw [members, List.findSome?_eq_none_iff]
      intro other listed
      exact (members_read_none _ _ _).mpr (counted other (List.mem_reverse.mp listed))
    refine ⟨?_, localName, ?_⟩
    · have still : after.hasValues = true := by rwa [Definition.hasValues, Definition.values, values]
      rw [Definition.isEnum, Definition.isMessage, unread, still]
      rfl
    · obtain ⟨others, last, literal, taken⟩ := last_literals settings module.statement localName recorded listed
      obtain ⟨place, counted⟩ := (enum_tables_last settings module.statement localName recorded).mp listed
      refine ⟨others, last, recorded, place, bound, literal, counted, values.trans held, ?_⟩
      rw [values, held, Option.some_inj]
      exact ⟨.inr, fun either => either.elim taken id⟩

end Module

/-- The two stages agree on every enum of a catalog, whatever tables and builders its modules hold. -/
theorem stages_agree_on_enums (settings : Settings) (origin result : Catalog)
    (resolved : resolve settings (catalogue settings origin) = .ok result) :
    List.Forall₂ (fun before after => after.name = before.name ∧ after.statement = before.statement ∧
        List.Forall₂ (Agrees settings before) before.definitions after.definitions)
      (catalogue settings origin).modules result.modules := by
  rw [(resolve_result settings _ result resolved).1, List.forall₂_map_right_iff, List.forall₂_same]
  intro module member
  obtain ⟨source, _, rfl⟩ := List.mem_map.mp member
  rw [resolve_module_settled settings _ _ (catalogued_names settings source)]
  refine ⟨rfl, rfl, ?_⟩
  rw [reading, List.forall₂_map_right_iff, List.forall₂_same]
  exact fun definition listed => settled_agrees settings source definition listed _

namespace Nameless
open Report

def firstBody : List Node := [entry "OFF" (whole 0)]

def secondBody : List Node := [.property false (.literal (.text "") "''") (whole 0), entry "ON" (whole 1)]

def rebound : Node := .assignment "=" (.identifier "c") (.call (.identifier "s") [.object secondBody])

def nameless : Module where
  name := "A"
  statement := .block [assign "c" "internalSpec" (.object firstBody), .expressionStatement rebound,
    assign "i" "ModeSpec" (.identifier "c")]

def mode : Definition where
  name := "Mode"
  localName := some "c"
  enumValues := some [⟨"OFF", 0⟩]
  module := some "A"

def recovered : Catalog where
  modules := [{ nameless with definitions := [mode] }]
  nesting := { paths := [("Mode", "")] }

theorem nameless_assignments : (Script.walk nameless.statement).filterMap assignment? =
    [⟨.identifier "c", "internalSpec", .object firstBody⟩, ⟨.identifier "i", "ModeSpec", .identifier "c"⟩] := by
  simp [Script.walk, Script.walkStack, Script.Pending.ofNode, nameless, rebound, firstBody, secondBody, assign, entry, whole,
    Node.children]
  rfl

theorem nameless_tables : specTables {} nameless.statement = [⟨.identifier "c", firstBody⟩] := by
  rw [spec_tables_of_assignments, nameless_assignments]
  rfl

theorem nameless_enums : enumTables {} nameless.statement = [("c", [⟨"OFF", 0⟩])] := by
  simp [enumTables, Script.trails, Script.walkTrails, Script.stepsOf, nameless, rebound, firstBody, secondBody, assign, entry,
    whole, Node.children, List.mapIdx_cons]
  rfl

theorem nameless_catalogued : catalogModule {} nameless = { nameless with definitions := [mode] } := by
  rw [catalogModule, nameless_enums, namedAssignments, nameless_assignments]
  simp [Settings.reservedProperties, shells, exportKey]
  decide

theorem nameless_resolved : resolve {} (catalogue {} { modules := [nameless] }) = .ok recovered := by
  have registered : registerModule {} {} nameless = { paths := [("Mode", "")] } := by
    rw [registerModule, namedAssignments, nameless_assignments]
    simp [Settings.reservedProperties, exportKey]
    decide
  have owner : SpecTable.owner? ⟨.identifier "c", firstBody⟩ { nameless with definitions := [mode] } = some mode := rfl
  simp only [resolve, catalogue, List.map_cons, List.map_nil, nameless_catalogued, Resolved.ofCatalog, resolveModule,
    nameless_tables, List.foldl_cons, List.foldl_nil, registered, resolveStep, owner]
  rfl

theorem nameless_last :
    ∃ last, LastLiteral nameless.statement (BoundLiteral {} "c") [⟨"", 0⟩, ⟨"ON", 1⟩] last := by
  obtain ⟨above, order⟩ : ∃ above, (Script.trails nameless.statement).drop 17 =
      (⟨1, .object secondBody⟩ :: ⟨1, .call (.identifier "s") [.object secondBody]⟩ :: ⟨0, rebound⟩ :: above) ::
        (Script.trails nameless.statement).drop 18 := by
    simp [Script.trails, Script.walkTrails, Script.stepsOf, nameless, rebound, firstBody, secondBody, assign, entry, whole,
      Node.children, List.mapIdx_cons]
  have behind : ∀ node ∈ (Script.walk nameless.statement).drop 18, ∀ properties, node ≠ .object properties := by
    simp [Script.walk, Script.walkStack, Script.Pending.ofNode, nameless, rebound, firstBody, secondBody, assign, entry,
      whole, Node.children]
  refine ⟨_ :: _ :: _ :: above, (Script.trails nameless.statement).take 17, (Script.trails nameless.statement).drop 18,
    ?_, ⟨secondBody, .builder 0 1 0 (.identifier "s") _ rebound above rfl (.assigned _ _), rfl⟩, ?_⟩
  · rw [← order, List.take_append_drop]
  · intro later member others literal
    obtain ⟨properties, visited⟩ := literal_visited {} nameless.statement "c" 18 later member others literal
    exact behind _ visited properties rfl

theorem nameless_literal_passed_over :
    ∃ result, resolve {} (catalogue {} { modules := [nameless] }) = .ok result ∧
      ∃ definition ∈ result.definitions, definition.localName = some "c" ∧
        (∃ table, table ∈ tablesOf {} (catalogModule {} nameless) definition.name) ∧
        (∀ table ∈ tablesOf {} (catalogModule {} nameless) definition.name, table.values? ≠ none) ∧
        (∃ last, LastLiteral nameless.statement (BoundLiteral {} "c") [⟨"", 0⟩, ⟨"ON", 1⟩] last) ∧
        definition.enumValues = some [⟨"OFF", 0⟩] := by
  -- The literal of the builder is the last one, and the values are those of the table before it.
  have tables : tablesOf {} (catalogModule {} nameless) mode.name = [⟨.identifier "c", firstBody⟩] := by
    rw [tablesOf, nameless_catalogued, nameless_tables]
    rfl
  refine ⟨recovered, nameless_resolved, mode, by simp [Catalog.definitions, recovered], rfl, ?_, ?_, nameless_last, rfl⟩
  · exact ⟨_, tables ▸ List.mem_cons_self⟩
  · rw [tables]
    intro table member
    rw [List.mem_singleton.mp member]
    exact Option.some_ne_none _

end Nameless

open Nameless in
theorem stages_agree_on_enums_nameless : resolve {} (catalogue {} { modules := [nameless] }) = .ok recovered ∧
    Agrees {} { nameless with definitions := [mode] } mode mode := by
  have agree := stages_agree_on_enums {} { modules := [nameless] } recovered nameless_resolved
  simp only [catalogue, List.map_cons, List.map_nil, nameless_catalogued, recovered, List.forall₂_cons] at agree
  exact ⟨nameless_resolved, agree.1.2.2.1⟩

end SchemaRecovery.Recovery
