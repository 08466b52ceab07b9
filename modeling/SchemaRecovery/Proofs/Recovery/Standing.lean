import SchemaRecovery.Proofs.Layout.Once
import SchemaRecovery.Proofs.Recovery.Recovered
import SchemaRecovery.Proofs.Recovery.Steps
import SchemaRecovery.Proofs.Schema.LastDefinition

set_option autoImplicit false

namespace SchemaRecovery.Recovery

open Script (Node)
open Schema (Catalog Definition Module Warning find_by_name find_by_name_split)
open Proto (Block Layout Rooted placedNames)

theorem outward_own (paths : List (String × String)) (name : String) : name ∈ Proto.outward paths name := by
  rw [Proto.outward]
  split <;> simp

theorem defined_placed (catalog : Catalog) (name : String) (defined : Proto.Defined catalog name) :
    name ∈ placedNames catalog := by
  have listed := (Proto.mem_catalog_names catalog name).mpr defined
  simp only [placedNames, List.mem_eraseDups, List.mem_flatMap, List.mem_map, List.mem_reverse]
  exact ⟨_, ⟨name, listed, rfl⟩, outward_own catalog.nesting.paths name⟩

theorem printed_found (catalog : Catalog) (printed : Definition)
    (member : printed ∈ Block.definitionsOf (Layout.ofCatalog catalog).blocks) :
    printed = ((catalog.byName.find? fun other => other.name = printed.name).getD (Proto.emptyMessage printed.name)) := by
  obtain ⟨placement, present, rfl⟩ := Proto.forest_definitions_placed _ _ printed member
  rw [Proto.placements_eq] at present
  obtain ⟨name, _, rfl⟩ := List.mem_map.mp present
  have named := Proto.place_name_name catalog.byName catalog.nesting name
  rw [Proto.Placement.name] at named
  rw [named, Proto.place_name_definition]
  rfl

theorem defined_printed (catalog : Catalog) (rooted : Rooted catalog) (name : String)
    (defined : Proto.Defined catalog name) :
    ∃ printed ∈ Block.definitionsOf (Layout.ofCatalog catalog).blocks, printed.name = name := by
  have whole := Proto.forest_definitions _ (Proto.layout_arranged catalog rooted)
  have placed := defined_placed catalog name defined
  rw [← Proto.placement_names] at placed
  obtain ⟨placement, member, rfl⟩ := List.mem_map.mp placed
  exact ⟨placement.definition, whole.mem_iff.mpr (List.mem_map_of_mem member), rfl⟩

theorem owners_last (before after : List Module) (owner : Module) (name : String)
    (own : owner.definitions.any fun definition => definition.name = name && !definition.isShell)
    (last : ∀ module ∈ after, ∀ other ∈ module.definitions, other.name = name → other.isShell = true) :
    ownersOf (before ++ owner :: after) name = ownersOf before name ++ [owner.name] := by
  have none : (after.filter fun module => module.definitions.any fun definition =>
      definition.name = name && !definition.isShell) = [] := by
    refine List.filter_eq_nil_iff.mpr fun module member found => ?_
    obtain ⟨other, present, shaped⟩ := List.any_eq_true.mp found
    simp only [Bool.and_eq_true, decide_eq_true_eq, Bool.not_eq_true'] at shaped
    rw [last module member other present shaped.1] at shaped
    exact Bool.noConfusion shaped.2
  rw [ownersOf, List.filter_append, List.filter_cons, if_pos own, none, List.map_append]
  rfl

theorem mem_owners (modules : List Module) (name : String) : ownersOf modules name ≠ [] ↔
    name ∈ (((modules.flatMap (·.definitions)).filter fun definition => !definition.isShell).map (·.name)) := by
  simp only [ownersOf, ne_eq, List.map_eq_nil_iff, List.filter_eq_nil_iff, not_forall, not_not, List.any_eq_true,
    Bool.and_eq_true, decide_eq_true_eq, List.mem_map, List.mem_filter, List.mem_flatMap]
  constructor
  · rintro ⟨module, member, definition, present, named, shaped⟩
    exact ⟨definition, ⟨⟨module, member, present⟩, shaped⟩, named⟩
  · rintro ⟨definition, ⟨⟨module, member, present⟩, shaped⟩, named⟩
    exact ⟨module, member, definition, present, named, shaped⟩

theorem mem_collisions (modules : List Module) (warning : Warning) : warning ∈ collisions modules ↔
    ∃ name, 1 < (ownersOf modules name).length ∧ warning = {
      kind := "name_collision"
      message := "'" ++ name ++ "' is defined in modules " ++ String.intercalate ", " (ownersOf modules name)
        ++ "; the last definition is used"
      module := (ownersOf modules name).getLast?
      definition := some name } := by
  simp only [collisions, List.mem_filterMap, List.mem_eraseDups, Option.ite_none_right_eq_some, Option.some.injEq,
    gt_iff_lt, ← mem_owners]
  constructor
  · rintro ⟨name, _, several, rfl⟩
    exact ⟨name, several, rfl⟩
  · rintro ⟨name, several, rfl⟩
    refine ⟨name, fun empty => ?_, several, rfl⟩
    rw [empty] at several
    exact absurd several (by decide)

theorem printed_behind (catalog : Catalog) (before after : List Module) (owner : Module)
    (split : catalog.modules = before ++ owner :: after) (distinct : (owner.definitions.map (·.name)).Nodup)
    (definition : Definition) (member : definition ∈ owner.definitions) (shaped : definition.isShell = false)
    (last : ∀ module ∈ after, ∀ other ∈ module.definitions, other.name = definition.name → other.isShell = true)
    (printed : Definition) (present : printed ∈ Block.definitionsOf (Layout.ofCatalog catalog).blocks)
    (named : printed.name = definition.name) :
    (printed = definition ↔ ∀ module ∈ after, module.defines definition.name = false) ∧
      (printed ≠ definition → printed.isShell = true) := by
  have standing := printed_found catalog printed present
  rw [named, find_by_name_split catalog before after owner split distinct definition member] at standing
  cases found : (after.flatMap (·.definitions)).reverse.find? fun other => other.name = definition.name with
  | none =>
      rw [found, Option.none_or, Option.getD_some] at standing
      refine ⟨iff_of_true standing fun module inside => ?_, fun different => absurd standing different⟩
      rw [List.find?_eq_none] at found
      refine List.any_eq_false.mpr fun other own => found other ?_
      exact List.mem_reverse.mpr (List.mem_flatMap.mpr ⟨module, inside, own⟩)
  | some other =>
      rw [found, Option.some_or, Option.getD_some] at standing
      obtain ⟨module, inside, own⟩ := List.mem_flatMap.mp (List.mem_reverse.mp (List.mem_of_find?_eq_some found))
      have same : other.name = definition.name := by simpa using List.find?_some found
      have shell := last module inside other own same
      refine ⟨iff_of_false ?_ fun none => ?_, fun _ => standing ▸ shell⟩
      · rintro rfl
        rw [standing, shell] at shaped
        exact Bool.noConfusion shaped
      · exact List.any_eq_false.mp (none module inside) other own (by simpa using same)

/-- The definition of the last module that has more than a shell is printed just where no later
module has the name, although it is the one that a collision says is used. -/
theorem printed_last_iff (settings : Settings) (catalog result : Catalog)
    (keyed : ∀ module ∈ catalog.modules, (module.definitions.map (·.name)).Nodup)
    (resolved : resolve settings catalog = .ok result)
    (before after : List Module) (owner : Module) (split : result.modules = before ++ owner :: after)
    (definition : Definition) (member : definition ∈ owner.definitions) (shaped : definition.isShell = false)
    (last : ∀ module ∈ after, ∀ other ∈ module.definitions, other.name = definition.name → other.isShell = true) :
    (Rooted result → ∃ printed ∈ Block.definitionsOf (Layout.ofCatalog result).blocks, printed.name = definition.name) ∧
      (∀ printed ∈ Block.definitionsOf (Layout.ofCatalog result).blocks, printed.name = definition.name →
        (printed = definition ↔ ∀ module ∈ after, module.defines definition.name = false) ∧
          (printed ≠ definition → printed.isShell = true)) ∧
      (∃ earlier, result.warnings = earlier ++ collisions result.modules) ∧
      ((∃ warning ∈ collisions result.modules, warning.definition = some definition.name) ↔
        1 < (ownersOf result.modules definition.name).length) ∧
      ∀ warning ∈ collisions result.modules, warning.definition = some definition.name →
        warning.module = some owner.name := by
  have present : owner ∈ result.modules := by simp [split]
  have distinct := resolved_names_distinct settings catalog result keyed resolved owner present
  refine ⟨fun rooted => defined_printed result rooted _ ⟨definition, ?_, rfl⟩,
    printed_behind result before after owner split distinct definition member shaped last, ?_, ?_, ?_⟩
  · exact List.mem_flatMap.mpr ⟨owner, present, member⟩
  · rw [(resolve_result settings catalog result resolved).2.2, ← List.append_assoc]
    exact ⟨_, rfl⟩
  · simp only [mem_collisions]
    constructor
    · rintro ⟨_, ⟨name, several, rfl⟩, same⟩
      exact Option.some.inj same ▸ several
    · exact fun several => ⟨_, ⟨definition.name, several, rfl⟩, rfl⟩
  · intro warning listed same
    obtain ⟨name, _, rfl⟩ := (mem_collisions _ _).mp listed
    obtain rfl : name = definition.name := Option.some.inj same
    have own : owner.definitions.any fun other => other.name = definition.name && !other.isShell :=
      List.any_eq_true.mpr ⟨definition, member, by simp [shaped]⟩
    simp only [split, owners_last before after owner definition.name own last, List.getLast?_concat]

theorem spec_tables_of_assignments (settings : Settings) (statement : Node) : specTables settings statement =
    ((Script.walk statement).filterMap assignment?).filterMap fun assignment =>
      match assignment with
      | ⟨target, property, .object properties⟩ =>
        if property = settings.specProperty then some ⟨target, properties⟩ else none
      | _ => none := by
  rw [specTables, List.filterMap_filterMap]
  congr 1
  funext node
  unfold specTable?
  cases assignment? node with
  | none => rfl
  | some assignment =>
      obtain ⟨target, property, value⟩ := assignment
      cases value <;> rfl

namespace Hidden
open Report

def numberTable : List Node := [entry "x" (.array [some (whole 1), some (token "TYPES" "INT32")])]

def tabled : Module where
  name := "A"
  statement := .block [assign "i" "NSpec" (.identifier "c"), assign "c" "internalSpec" (.object numberTable)]

def untabled : Module where
  name := "B"
  statement := .block [assign "i" "NSpec" (.identifier "k")]

def exported (localName moduleName : String) : Definition :=
  { name := "N", localName := some localName, module := some moduleName }

def numbered : Definition :=
  { exported "c" "A" with members := some [.field { name := "x", id := some 1, type := some "int32" }] }

theorem tabled_assignments : (Script.walk tabled.statement).filterMap assignment? =
    [⟨.identifier "i", "NSpec", .identifier "c"⟩, ⟨.identifier "c", "internalSpec", .object numberTable⟩] := by
  simp [Script.walk, Script.walkStack, Script.Pending.ofNode, tabled, assign, numberTable, entry, token, whole,
    Node.children]
  rfl

theorem untabled_assignments : (Script.walk untabled.statement).filterMap assignment? =
    [⟨.identifier "i", "NSpec", .identifier "k"⟩] := by
  simp [Script.walk, Script.walkStack, Script.Pending.ofNode, untabled, assign, Node.children]
  rfl

theorem no_enums : enumTables {} tabled.statement = [] ∧ enumTables {} untabled.statement = [] := by
  constructor
  · simp [enumTables, Script.trails, Script.walkTrails, Script.stepsOf, tabled, assign, numberTable, entry, token, whole,
      Node.children, List.mapIdx_cons]
    rfl
  · simp [enumTables, Script.trails, Script.walkTrails, Script.stepsOf, untabled, assign, Node.children, List.mapIdx_cons]
    rfl

theorem catalogued_modules : catalogModule {} tabled = { tabled with definitions := [exported "c" "A"] } ∧
    catalogModule {} untabled = { untabled with definitions := [exported "k" "B"] } := by
  constructor
  · rw [catalogModule, no_enums.1, namedAssignments, tabled_assignments]
    simp [Settings.reservedProperties, shells, exportKey]
    decide
  · rw [catalogModule, no_enums.2, namedAssignments, untabled_assignments]
    simp [Settings.reservedProperties, shells, exportKey]
    decide

theorem number_table_read (scope : Scope) (definition : Definition) (usual : scope.settings = {}) :
    resolveTable scope definition numberTable =
      ({ definition with members := some [.field { name := "x", id := some 1, type := some "int32" }] },
        [.resolved definition.name 1]) := by
  have leaves : typeLeaves (some (token "TYPES" "INT32")) = [token "TYPES" "INT32"] := by
    simp [typeLeaves, orLeaves, orLeavesStack, token]
  have types : tokensOf "TYPES" [token "TYPES" "INT32"] = ["int32"] := by decide
  have flags : flagsOf {} [token "TYPES" "INT32"] = [] := by decide
  have read : fieldEntry (.array [some (whole 1), some (token "TYPES" "INT32")]) =
      .ok ⟨1, some (token "TYPES" "INT32"), none⟩ := rfl
  have declared : resolveEntry scope definition.name ⟨"x", .array [some (whole 1), some (token "TYPES" "INT32")]⟩ =
      (some { name := "x", id := some 1, type := some "int32" }, []) := by
    simp only [resolveEntry, read, resolveField, resolveType, usual, leaves, types, flags]
    rfl
  have uncounted : enumValues? (.object numberTable) = none := rfl
  have keyed : numberTable.filterMap keyedProperty? = [⟨"x", .array [some (whole 1), some (token "TYPES" "INT32")]⟩] := rfl
  have parted : (numberTable.filterMap keyedProperty?).partition (isConstraint {}) =
      ([], [⟨"x", .array [some (whole 1), some (token "TYPES" "INT32")]⟩]) := rfl
  simp only [resolveTable, uncounted, resolveMembers, usual, parted, List.map_cons, List.map_nil, declared]
  rfl

theorem module_tables : specTables {} tabled.statement = [⟨.identifier "c", numberTable⟩] ∧
    specTables {} untabled.statement = [] := by
  rw [spec_tables_of_assignments, spec_tables_of_assignments, tabled_assignments, untabled_assignments]
  exact ⟨rfl, rfl⟩

theorem resolved_modules (modules : List Module) :
    resolveModule {} modules { tabled with definitions := [exported "c" "A"] } =
        ⟨{ tabled with definitions := [numbered] }, 1, [.resolved "N" 1]⟩ ∧
      resolveModule {} modules { untabled with definitions := [exported "k" "B"] } =
        ⟨{ untabled with definitions := [exported "k" "B"] }, 0, []⟩ := by
  have owner : SpecTable.owner? ⟨.identifier "c", numberTable⟩ { tabled with definitions := [exported "c" "A"] } =
      some (exported "c" "A") := rfl
  rw [resolveModule, resolveModule, module_tables.1, module_tables.2, List.foldl_cons, List.foldl_nil, resolveStep]
  simp only [owner, number_table_read]
  exact ⟨rfl, rfl⟩

def hidden : Catalog where
  modules := [{ tabled with definitions := [numbered] }, { untabled with definitions := [exported "k" "B"] }]
  nesting := { paths := [("N", "")] }

def shown : Catalog := { hidden with modules := hidden.modules.reverse }

theorem hidden_resolved : resolve {} (catalogue {} { modules := [tabled, untabled] }) = .ok hidden ∧
    resolve {} (catalogue {} { modules := [untabled, tabled] }) = .ok shown := by
  have registered (nesting : Schema.Nesting) : registerModule {} nesting tabled = nesting.register "N" "" ∧
      registerModule {} nesting untabled = nesting.register "N" "" := by
    rw [registerModule, registerModule, namedAssignments, namedAssignments, tabled_assignments, untabled_assignments]
    have key : Schema.Name.stripSuffix "Spec" "NSpec" = "N" := by decide
    have path : Schema.Name.nestingPath "N" = "" := by decide
    simp [Settings.reservedProperties, exportKey, key, path]
  constructor
  · simp only [resolve, catalogue, List.map_cons, List.map_nil, catalogued_modules, Resolved.ofCatalog, resolved_modules,
      module_tables, List.foldl_cons, List.foldl_nil, registered]
    rfl
  · simp only [resolve, catalogue, List.map_cons, List.map_nil, catalogued_modules, Resolved.ofCatalog, resolved_modules,
      module_tables, List.foldl_cons, List.foldl_nil, registered]
    rfl

theorem hidden_placements (catalog : Catalog) (both : catalog = hidden ∨ catalog = shown) :
    (Layout.ofCatalog catalog).placements = [Proto.placeName catalog.byName catalog.nesting "N"] := by
  have names : placedNames catalog = ([["N"]].flatMap List.reverse).eraseDups := by
    refine Proto.placed_names_eq catalog ["N"] _ (by decide) ?_ ?_
    · intro name
      rcases both with rfl | rfl <;>
        simp [Proto.Defined, Catalog.definitions, hidden, shown, numbered, exported, eq_comm]
    · rcases both with rfl | rfl <;> exact .cons (.top _ (by decide)) .nil
  rw [Proto.placements_eq, names]
  rfl

theorem shell_hides_message : ∃ result, resolve {} (catalogue {} { modules := [tabled, untabled] }) = .ok result ∧
    numbered ∈ result.definitions ∧ numbered.name = "N" ∧ numbered.isShell = false ∧ result.warnings = [] ∧
    ∃ block, (Layout.ofCatalog result).blocks = [block] ∧ block.name = "N" ∧ block.definition.isShell = true ∧
      block.lines (Layout.ofCatalog result) "  " = ["// Unknown entity N"] := by
  -- The shell takes the place of the message, and nothing is said about it.
  refine ⟨hidden, hidden_resolved.1, by simp [Catalog.definitions, hidden], rfl, rfl, rfl,
    .node (exported "k" "B") "N" [], ?_, rfl, rfl, rfl⟩
  rw [Layout.blocks, hidden_placements hidden (.inl rfl)]
  rfl

end Hidden

open Hidden in
theorem printed_last_iff_shown :
    (∀ module ∈ (catalogue {} { modules := [untabled, tabled] }).modules, (module.definitions.map (·.name)).Nodup) ∧
      resolve {} (catalogue {} { modules := [untabled, tabled] }) = .ok shown ∧
      numbered ∈ ({ tabled with definitions := [numbered] } : Module).definitions ∧ numbered.isShell = false ∧
      (∃ printed ∈ Block.definitionsOf (Layout.ofCatalog shown).blocks, printed.name = "N") ∧
      ∀ printed ∈ Block.definitionsOf (Layout.ofCatalog shown).blocks, printed.name = "N" → printed = numbered := by
  have keyed : ∀ module ∈ (catalogue {} { modules := [untabled, tabled] }).modules,
      (module.definitions.map (·.name)).Nodup := by
    intro module member
    obtain ⟨source, _, rfl⟩ := List.mem_map.mp member
    exact catalogued_names {} source
  have rooted : Rooted shown := ⟨by decide, fun definition member => ⟨1, by revert definition; decide⟩⟩
  obtain ⟨present, standing, _⟩ := printed_last_iff {} _ shown keyed hidden_resolved.2
    [{ untabled with definitions := [exported "k" "B"] }] [] { tabled with definitions := [numbered] } rfl numbered
    List.mem_cons_self rfl fun _ absent => absurd absent List.not_mem_nil
  refine ⟨keyed, hidden_resolved.2, List.mem_cons_self, rfl, present rooted, fun printed member named => ?_⟩
  exact (standing printed member named).1.mpr fun _ absent => absurd absent List.not_mem_nil

end SchemaRecovery.Recovery
