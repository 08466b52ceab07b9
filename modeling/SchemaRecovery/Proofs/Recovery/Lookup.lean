import SchemaRecovery.Proofs.Recovery.ModuleOrder

set_option autoImplicit false

namespace SchemaRecovery.Recovery

open Script (Node)
open Schema (Catalog Definition Load Module)

inductive StandsFor (localName : String) : Node → Prop where
  | named : StandsFor localName (.identifier localName)
  | assigned (operator : String) (value : Node) : StandsFor localName (.assignment operator (.identifier localName) value)
  | called (arguments : List Node) : StandsFor localName (.call (.identifier localName) arguments)

def FirstLoad (statement : Node) (localName target : String) : Prop :=
  ∃ before after, loads statement = before ++ ⟨localName, target⟩ :: after ∧
    ∀ load ∈ before, load.localName ≠ localName

theorem loader_name_iff (target : Node) (localName : String) :
    loaderName? target = some localName ↔ StandsFor localName target := by
  constructor
  · intro found
    unfold loaderName? at found
    split at found
    · cases found
      exact .named
    · rw [(node_named _ localName).mp found]
      exact .assigned _ _
    · rw [(node_named _ localName).mp found]
      exact .called _
    · cases found
  · rintro (_ | _ | _) <;> rfl

theorem first_load_iff (statement : Node) (localName target : String) :
    FirstLoad statement localName target ↔
      ((loads statement).find? fun load => load.localName = localName) = some ⟨localName, target⟩ := by
  simp [FirstLoad, List.find?_eq_some_iff_append]

section Lookup
variable (settings : Settings)

def Exported (statement : Node) (key : String) : Prop :=
  ∃ node ∈ Script.walk statement, ∃ value, Exports settings key value node

theorem exported_iff (module : Module) (key : String) :
    Exported settings module.statement key ↔ key ∈ exportedKeys settings module := by
  constructor
  · rintro ⟨node, visited, value, exported⟩
    obtain ⟨assignment, member, same, _⟩ := (named_assignment _ _ _ _).mp ⟨node, visited, exported⟩
    exact List.mem_map.mpr ⟨assignment, member, same⟩
  · intro listed
    obtain ⟨assignment, member, same⟩ := List.mem_map.mp listed
    obtain ⟨node, visited, exported⟩ := (named_assignment _ _ _ _).mpr ⟨assignment, member, same, rfl⟩
    exact ⟨node, visited, _, exported⟩

structure Recorded (modules : List Module) : Prop where
  names : (modules.map (·.name)).Nodup
  loads : ∀ module ∈ modules, module.loads = loads module.statement
  distinct : ∀ module ∈ modules, (module.definitions.map (·.name)).Nodup
  defines : ∀ module ∈ modules, ∀ key, module.defines key = true ↔ Exported settings module.statement key

theorem catalogued_defines (module : Module) (key : String) :
    (catalogModule settings module).defines key = true ↔ Exported settings module.statement key := by
  have names : key ∈ (catalogModule settings module).definitions.map (·.name) ↔ key ∈ exportedKeys settings module := by
    rw [catalog_module_names, List.mem_eraseDups, List.mem_reverse]
    rfl
  rw [exported_iff, ← names, Module.defines, List.any_eq_true, List.mem_map]
  simp only [decide_eq_true_eq]

theorem recorded_after (stages : List Stage) (origin now : Catalog) (after : After settings stages origin now)
    (named : (origin.modules.map (·.name)).Nodup) (crossed : .crossReference ∈ stages)
    (catalogued : .catalogue ∈ stages) : Recorded settings now.modules := by
  have names : origin.modules.map (·.name) = now.modules.map (·.name) :=
    map_forall₂ _ _ _ (fun _ _ related => related.name.symm) _ _ after.modules
  refine ⟨names ▸ named, fun module member => ?_, after_distinct settings stages _ _ after.modules,
    fun module member key => ?_⟩
  · obtain ⟨source, _, related⟩ := forall₂_source _ _ _ after.modules module member
    rw [related.loads crossed, related.statement]
  · obtain ⟨source, _, related⟩ := forall₂_source _ _ _ after.modules module member
    rw [defines_binding, related.same catalogued, ← defines_binding, catalogued_defines, related.statement]

section Reference
variable (modules : List Module) (module : Module)

structure Reached (target : Node) (key localName : String) (other : Module) : Prop where
  object : StandsFor localName target
  present : other ∈ modules
  loaded : FirstLoad module.statement localName other.name
  inside : other.name ≠ settings.externalEnumModule
  exported : Exported settings other.statement key

def ownKey (property : String) : String := Schema.Name.stripSuffix settings.specSuffix property

inductive Justified (enumField : Bool) : Option Node → String → Rule → Prop where
  -- By which rule a reference has a name. Each one holds only where those before it do not.
  | localAlias (localName : String) (definition : Definition) (bound : module.ofLocalName? localName = some definition)
      (exported : Exported settings module.statement definition.name) :
      Justified enumField (some (.identifier localName)) definition.name .localAlias
  | sameModule (computed : Bool) (target key : Node) (property : String)
      (named : Node.memberName computed key = some property)
      (exported : Exported settings module.statement (ownKey settings property)) :
      Justified enumField (some (.member computed target key)) (ownKey settings property) .sameModule
  | loadedModule (computed : Bool) (target key : Node) (property localName : String) (other : Module)
      (named : Node.memberName computed key = some property)
      (foreign : ¬ Exported settings module.statement (ownKey settings property))
      (reached : Reached settings modules module target (ownKey settings property) localName other) :
      Justified enumField (some (.member computed target key)) (ownKey settings property) .loadedModule
  | namingConvention (computed : Bool) (target key : Node) (property : String)
      (named : Node.memberName computed key = some property)
      (foreign : ¬ Exported settings module.statement (ownKey settings property))
      (unreached : ¬ ∃ localName other, Reached settings modules module target (ownKey settings property) localName other)
      (shaped : followsConvention settings enumField property = true) :
      Justified enumField (some (.member computed target key)) (ownKey settings property) .namingConvention

inductive Component : Option Node → String → Prop where
  | token (node : Node) (name : String) (read : tableToken? node = some ⟨settings.typesTable, name⟩) :
      Component (some node) (Text.lower name)
  | reference (element : Option Node) (name : String) (rule : Rule)
      (other : ∀ name, element.bind tableToken? ≠ some ⟨settings.typesTable, name⟩)
      (justified : Justified settings modules module false element name rule) : Component element name

theorem resolve_reached (computed : Bool) (target key : Node) (property localName : String) (other : Module)
    (named : Node.memberName computed key = some property)
    (reached : Reached settings modules module target (ownKey settings property) localName other) :
    (∀ enumField, ∃ rule, (rule = .sameModule ∨ rule = .loadedModule) ∧
        Justified settings modules module enumField (some (.member computed target key)) (ownKey settings property) rule) ∧
      Component settings modules module (some (.member computed target key)) (ownKey settings property) := by
  have justified (enumField : Bool) : ∃ rule, (rule = .sameModule ∨ rule = .loadedModule) ∧
      Justified settings modules module enumField (some (.member computed target key)) (ownKey settings property) rule := by
    by_cases exported : Exported settings module.statement (ownKey settings property)
    · exact ⟨.sameModule, .inl rfl, .sameModule computed target key property named exported⟩
    · exact ⟨.loadedModule, .inr rfl, .loadedModule computed target key property localName other named exported reached⟩
  obtain ⟨rule, _, part⟩ := justified false
  refine ⟨justified, .reference _ _ rule (fun read same => ?_) part⟩
  -- The object of a type token is a member itself, and no form of a module object is one.
  cases reached.object <;> cases same

section Recorded
variable (recorded : Recorded settings modules)
include recorded

theorem module_found_iff (name : String) (other : Module) :
    Scope.module? ⟨settings, modules, module⟩ name = some other ↔ other ∈ modules ∧ other.name = name := by
  have names : (modules.reverse.map (·.name)).Nodup := by
    rw [List.map_reverse, List.nodup_reverse]
    exact recorded.names
  rw [Scope.module?, Schema.find_keyed_iff (·.name) modules.reverse names, List.mem_reverse]

variable (present : module ∈ modules)
include present

theorem loaded_defines_iff (target : Node) (key : String) :
    ((loaderName? target).any fun localName => Scope.loadedDefines ⟨settings, modules, module⟩ localName key) = true ↔
      ∃ localName other, Reached settings modules module target key localName other := by
  rw [Option.any_eq_true]
  have defined (localName : String) : Scope.loadedDefines ⟨settings, modules, module⟩ localName key = true ↔
      ∃ load other, module.loadOf? localName = some load ∧ load.target ≠ settings.externalEnumModule ∧
        (other ∈ modules ∧ other.name = load.target) ∧ other.defines key = true := by
    unfold Scope.loadedDefines
    split
    · rename_i unloaded
      simp [unloaded]
    · rename_i load loaded
      simp only [loaded, Option.some.injEq, exists_and_left, exists_eq_left', Bool.and_eq_true, decide_eq_true_eq,
        Option.any_eq_true, module_found_iff settings modules module recorded]
  constructor
  · rintro ⟨localName, object, found⟩
    obtain ⟨load, other, loaded, inside, ⟨member, named⟩, defines⟩ := (defined localName).mp found
    have first : FirstLoad module.statement localName other.name := by
      have called : load.localName = localName := by simpa using List.find?_some loaded
      rw [first_load_iff, ← recorded.loads module present, named, ← called]
      rwa [Module.loadOf?, ← called] at loaded
    exact ⟨localName, other, (loader_name_iff target localName).mp object, member, first, named ▸ inside,
      (recorded.defines other member key).mp defines⟩
  · rintro ⟨localName, other, reached⟩
    refine ⟨localName, (loader_name_iff target localName).mpr reached.object, (defined localName).mpr
      ⟨⟨localName, other.name⟩, other, ?_, reached.inside, ⟨reached.present, rfl⟩,
        (recorded.defines other reached.present key).mpr reached.exported⟩⟩
    rw [Module.loadOf?, recorded.loads module present]
    exact (first_load_iff _ _ _).mp reached.loaded

theorem resolve_member_iff (computed : Bool) (target key : Node) (property : String)
    (named : Node.memberName computed key = some property) (enumField : Bool) (whole name : String) (rule : Rule) :
    resolveMember ⟨settings, modules, module⟩ target property enumField whole = .found name rule ↔
      Justified settings modules module enumField (some (.member computed target key)) name rule := by
  have own := recorded.defines module present (ownKey settings property)
  have loaded := loaded_defines_iff settings modules module recorded present target (ownKey settings property)
  constructor
  · intro found
    simp only [resolveMember] at found
    split at found
    · rename_i defines
      cases found
      exact .sameModule computed target key property named (own.mp defines)
    · rename_i absent
      have foreign := mt own.mpr absent
      split at found
      · rename_i there
        obtain ⟨localName, other, reached⟩ := loaded.mp there
        cases found
        exact .loadedModule computed target key property localName other named foreign reached
      · rename_i nowhere
        split at found
        · rename_i shaped
          cases found
          exact .namingConvention computed target key property named foreign (mt loaded.mpr nowhere) shaped
        · cases found
  · have same (other : String) (read : Node.memberName computed key = some other) : other = property :=
      Option.some.inj (read.symm.trans named)
    rintro (_ | ⟨_, _, _, other, read, exported⟩ | ⟨_, _, _, other, localName, library, read, foreign, reached⟩ |
      ⟨_, _, _, other, read, foreign, unreached, shaped⟩)
    · obtain rfl := same other read
      exact if_pos (own.mpr exported)
    · obtain rfl := same other read
      exact (if_neg (mt own.mp foreign)).trans (if_pos (loaded.mpr ⟨localName, library, reached⟩))
    · obtain rfl := same other read
      exact (if_neg (mt own.mp foreign)).trans ((if_neg (mt loaded.mp unreached)).trans (if_pos shaped))

theorem resolve_reference_iff (reference : Option Node) (enumField : Bool) (name : String) (rule : Rule) :
    resolveReference ⟨settings, modules, module⟩ reference enumField = .found name rule ↔
      Justified settings modules module enumField reference name rule := by
  unfold resolveReference
  split
  · constructor
    · intro found
      cases found
    · intro justified
      cases justified
  · rename_i localName
    have exported (definition : Definition) (bound : module.ofLocalName? localName = some definition) :
        Exported settings module.statement definition.name := by
      rw [← recorded.defines module present, Module.defines, List.any_eq_true]
      exact ⟨definition, List.mem_of_find?_eq_some bound, decide_eq_true rfl⟩
    split
    · rename_i definition bound
      constructor
      · intro found
        cases found
        exact .localAlias localName definition bound (exported definition bound)
      · rintro ⟨_, other, again, _⟩
        rw [Option.some.inj (again.symm.trans bound)]
    · rename_i unbound
      constructor
      · intro found
        cases found
      · rintro ⟨_, other, bound, _⟩
        exact absurd (bound.symm.trans unbound) (Option.some_ne_none _)
  · rename_i computed target key
    dsimp only
    split
    · rename_i property named
      exact resolve_member_iff settings modules module recorded present computed target key property named enumField _ name rule
    · rename_i unnamed
      constructor
      · intro found
        cases found
      · intro justified
        cases justified <;> simp_all
  · rename_i node other another
    constructor
    · intro found
      cases found
    · intro justified
      cases justified
      · exact absurd rfl (other _)
      all_goals exact absurd rfl (another _ _ _)

theorem resolve_map_type_iff (element : Option Node) (name : String) :
    resolveMapType ⟨settings, modules, module⟩ element = .ok name ↔ Component settings modules module element name := by
  have referred : resolveMapType.ofReference ⟨settings, modules, module⟩ element = .ok name ↔
      ∃ rule, Justified settings modules module false element name rule := by
    simp only [← resolve_reference_iff settings modules module recorded present, resolveMapType.ofReference]
    split
    · rename_i found
      simp [found]
    · rename_i failed
      simp [failed]
  have token (read : String) : element.bind tableToken? = some ⟨settings.typesTable, read⟩ →
      (Component settings modules module element name ↔ name = Text.lower read) := by
    intro there
    obtain ⟨node, rfl, found⟩ := Option.bind_eq_some_iff.mp there
    constructor
    · rintro (⟨_, other, again⟩ | ⟨_, _, rule, absent, _⟩)
      · cases found.symm.trans again
        rfl
      · exact absurd there (absent read)
    · rintro rfl
      exact .token node read found
  have reference (absent : ∀ read, element.bind tableToken? ≠ some ⟨settings.typesTable, read⟩) :
      Component settings modules module element name ↔ ∃ rule, Justified settings modules module false element name rule := by
    constructor
    · rintro (⟨node, other, again⟩ | ⟨_, _, rule, _, justified⟩)
      · exact absurd again (absent other)
      · exact ⟨rule, justified⟩
    · rintro ⟨rule, justified⟩
      exact .reference element name rule absent justified
  unfold resolveMapType
  split
  · rename_i table there
    split
    · rename_i types
      rw [token table.name (by rw [there, ← types])]
      simp [eq_comm]
    · rename_i others
      rw [referred, reference]
      intro read same
      exact others (by rw [Option.some.inj (there.symm.trans same)])
  · rename_i none
    rw [referred, reference]
    intro read same
    cases none.symm.trans same

theorem resolve_map_iff (key value : Option Node) (first second : String) :
    resolveMap ⟨settings, modules, module⟩ (some (.array [key, value])) = .ok (first, second) ↔
      Component settings modules module key first ∧ Component settings modules module value second := by
  simp only [← resolve_map_type_iff settings modules module recorded present, resolveMap, bind, Except.bind]
  split
  · rename_i failed
    simp [failed]
  · rename_i left read
    split
    · rename_i failed
      simp [failed]
    · rename_i right found
      simp [read, found]

end Recorded

def scopeAfter (read : List SpecTable) : Scope :=
  ⟨settings, modules, (read.foldl (resolveStep settings modules) ⟨module, 0, []⟩).module⟩

theorem scope_after_alike (read : List SpecTable) (distinct : (module.definitions.map (·.name)).Nodup) :
    Alike (scopeAfter settings modules module read) ⟨settings, modules, module⟩ := by
  obtain ⟨name, same⟩ := resolve_tables_bindings settings modules read ⟨module, 0, []⟩ distinct
  have start : NamesKept ⟨settings, modules, module⟩ ⟨module, 0, []⟩ := ⟨rfl, rfl, rfl, distinct⟩
  have run := resolve_tables_settled ⟨settings, modules, module⟩ read _ start
  refine alike_of_bindings _ _ rfl name ?_ same fun _ _ => rfl
  rw [scopeAfter, run]
  rfl

end Reference

/-- References are found by one law, whichever module of a bundle they stand in and however many of
its tables have been read. It asks what modules load and export, and not where in the bundle they
stand. -/
theorem reference_law (stages : List Stage) (origin now : Catalog)
    (keyed : ∀ module ∈ origin.modules, (module.definitions.map (·.name)).Nodup)
    (named : (origin.modules.map (·.name)).Nodup) (crossed : .crossReference ∈ stages) (catalogued : .catalogue ∈ stages)
    (ran : (runStages settings stages origin).value = .ok now) :
    (∀ module ∈ now.modules, ∀ key, module.defines key = true ↔ Exported settings module.statement key) ∧
    ∀ module ∈ now.modules, ∀ read,
      (∀ reference enumField name rule,
        resolveReference (scopeAfter settings now.modules module read) reference enumField = .found name rule ↔
          Justified settings now.modules module enumField reference name rule) ∧
      (∀ key value first second,
        resolveMap (scopeAfter settings now.modules module read) (some (.array [key, value])) = .ok (first, second) ↔
          Component settings now.modules module key first ∧ Component settings now.modules module value second) ∧
      ∀ computed target key property localName other, Node.memberName computed key = some property →
        Reached settings now.modules module target (ownKey settings property) localName other →
        (∀ enumField, ∃ rule, (rule = .sameModule ∨ rule = .loadedModule) ∧
          resolveReference (scopeAfter settings now.modules module read) (some (.member computed target key)) enumField =
            .found (ownKey settings property) rule) ∧
        Component settings now.modules module (some (.member computed target key)) (ownKey settings property) := by
  have after := after_run settings [] stages origin origin now (after_start settings origin keyed) ran
  have recorded := recorded_after settings stages origin now after named crossed catalogued
  refine ⟨recorded.defines, fun module present read => ?_⟩
  have alike := scope_after_alike settings now.modules module read (recorded.distinct module present)
  simp only [resolve_reference_alike _ _ alike, resolve_map_alike _ _ alike,
    resolve_reference_iff settings now.modules module recorded present,
    resolve_map_iff settings now.modules module recorded present, implies_true, true_and]
  exact resolve_reached settings now.modules module

end Lookup

namespace Loading
open Hidden Report

def user : Module where
  name := "U"
  statement := .expressionStatement
    (.assignment "=" (.identifier "f") (.call (.identifier "o") [.literal (.text "A") "'A'"]))

def bundle : Catalog := { modules := [user, tabled] }

theorem user_loads : loads user.statement = [⟨"f", "A"⟩] := by
  simp [loads, Script.walk, Script.walkStack, Script.Pending.ofNode, user, Node.children]
  decide

theorem user_exports (key : String) : ¬ Exported {} user.statement key := by
  have assignments : (Script.walk user.statement).filterMap assignment? = [] := by
    simp [Script.walk, Script.walkStack, Script.Pending.ofNode, user, Node.children, assignment?]
  rw [exported_iff, exportedKeys, namedAssignments, assignments]
  exact List.not_mem_nil

end Loading

open Loading Hidden Apart in
theorem reference_law_loaded :
    (∀ module ∈ bundle.modules, (module.definitions.map (·.name)).Nodup) ∧ (bundle.modules.map (·.name)).Nodup ∧
      ∃ now, (runStages {} [.crossReference, .catalogue] bundle).value = .ok now ∧ ∃ module ∈ now.modules,
        resolveReference (scopeAfter {} now.modules module [])
          (some (.member false (.identifier "f") (.identifier "NSpec"))) false = .found "N" .loadedModule := by
  have keyed : ∀ module ∈ bundle.modules, (module.definitions.map (·.name)).Nodup := by decide
  have named : (bundle.modules.map (·.name)).Nodup := by decide
  obtain ⟨_, law⟩ := reference_law {} [.crossReference, .catalogue] bundle (preparedCatalog {} bundle) keyed named
    (by simp) (by simp) rfl
  have modules : (preparedCatalog {} bundle).modules = [prepared {} user, prepared {} tabled] := prepared_modules {} bundle
  have present : prepared {} user ∈ (preparedCatalog {} bundle).modules := by simp [modules]
  have key : ownKey {} "NSpec" = "N" := by decide
  have reached : Reached {} (preparedCatalog {} bundle).modules (prepared {} user) (.identifier "f") "N" "f"
      (prepared {} tabled) := by
    refine ⟨.named, by simp [modules], ⟨[], [], user_loads, by simp⟩, by decide, ?_⟩
    have exported := (exported_iff {} tabled "N").mpr (by rw [keys.1]; exact List.mem_cons_self)
    exact exported
  obtain ⟨sound, _, complete⟩ := law _ present []
  obtain ⟨rule, own | loaded, found⟩ :=
    (complete false (.identifier "f") (.identifier "NSpec") "NSpec" "f" _ rfl (key ▸ reached)).1 false
  · have justified := (sound _ _ _ _).mp (own ▸ found)
    generalize ownKey {} "NSpec" = name at justified
    cases justified with
    | sameModule _ _ _ _ _ exported => exact absurd exported (user_exports _)
  · rw [loaded, key] at found
    exact ⟨keyed, named, _, rfl, _, present, found⟩

end SchemaRecovery.Recovery
