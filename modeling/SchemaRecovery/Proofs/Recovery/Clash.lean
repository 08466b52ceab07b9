import SchemaRecovery.Proofs.Recovery.LastExport
import SchemaRecovery.Proofs.Recovery.Notices
import SchemaRecovery.Proofs.Recovery.Standing

set_option autoImplicit false

namespace SchemaRecovery.Recovery

open Script (Node)
open Schema (Catalog Definition EnumValue Module Warning mem_put_definition put_definition_distinct)

inductive BoundTo (settings : Settings) (statement : Node) : Node → Prop where
  -- A value that a module has a definition for: a builder with a table or an enum body, or a
  -- body itself.
  | table (localName : String) (properties : List Node)
      (listed : ⟨.identifier localName, properties⟩ ∈ specTables settings statement) :
      BoundTo settings statement (.identifier localName)
  | enum (localName : String) (values : List EnumValue)
      (listed : (enumTables settings statement).lookup localName = some values) :
      BoundTo settings statement (.identifier localName)
  | direct (value : Node) (values : List EnumValue) (read : directEnumValues? value = some values) :
      BoundTo settings statement value

structure Holds (settings : Settings) (statement value : Node) (definition : Definition) : Prop where
  -- What is left of the definition of a value: more than a shell, with the values that were read
  -- for it.
  localName : definition.localName = value.name?
  shaped : definition.isShell = false
  values : ∀ values, enumValuesOf (enumTables settings statement) value = some values →
    definition.enumValues = some values

def Kept (settings : Settings) (statement value : Node) (module : Module) : Prop :=
  ∃ definition ∈ module.definitions, Holds settings statement value definition

def LastOfKey (settings : Settings) (statement value : Node) : Prop :=
  -- Some key has the value, or one that brings the same definition, as its last export.
  ∃ assignment, Stands settings statement assignment ∧ assignment.value.name? = value.name? ∧
    enumValuesOf (enumTables settings statement) assignment.value =
      enumValuesOf (enumTables settings statement) value

def Tabled (settings : Settings) (statement value : Node) : Prop :=
  ∃ localName, value = .identifier localName ∧
    ∃ table ∈ specTables settings statement, table.target.text = localName

def unknownTarget (moduleName localName : String) : Warning where
  kind := "unknown_spec_target"
  message := "No identifier is bound to alias '" ++ localName ++ "'"
  module := some moduleName

def Reported (moduleName : String) (value : Node) (notices : List Notice) : Prop :=
  ∃ localName, value = .identifier localName ∧ unknownTarget moduleName localName ∈ notices.filterMap (·.warning?)

def AboutModule (module : Module) (warning : Warning) : Prop :=
  -- Every other warning about a module is about a definition that is still there.
  (∃ localName, warning = unknownTarget module.name localName) ∨
    ∃ definition ∈ module.definitions, warning.definition = some definition.name

theorem values_known (definition : Definition) (values : List EnumValue) (known : definition.enumValues = some values)
    (filled : values ≠ []) : definition.hasValues = true := by
  simp [Definition.hasValues, Definition.values, known, filled]

theorem values_shaped (definition : Definition) (values : definition.hasValues = true) : definition.isShell = false := by
  cases message : definition.isMessage <;> simp [Definition.isShell, Definition.isEnum, message, values]

section Steps
variable (settings : Settings) (modules : List Module)

theorem resolve_tables_keep (keeps : Module → Prop)
    (step : ∀ progress table, (progress.module.definitions.map (·.name)).Nodup → keeps progress.module →
      keeps (resolveStep settings modules progress table).module)
    (tables : List SpecTable) (progress : Progress) (distinct : (progress.module.definitions.map (·.name)).Nodup)
    (holds : keeps progress.module) : keeps (tables.foldl (resolveStep settings modules) progress).module := by
  induction tables generalizing progress with
  | nil => exact holds
  | cons table rest ih =>
      have same := resolve_step_bindings settings modules progress table distinct
      exact ih _ (names_of_bindings _ _ same ▸ distinct) (step progress table distinct holds)

theorem mem_resolve_step (progress : Progress) (table : SpecTable)
    (distinct : (progress.module.definitions.map (·.name)).Nodup) (definition : Definition) :
    definition ∈ (resolveStep settings modules progress table).module.definitions ↔
      (∃ owner, table.owner? progress.module = some owner ∧
        definition = (resolveTable ⟨settings, modules, progress.module⟩ owner table.properties).1) ∨
      definition ∈ progress.module.definitions ∧ table.owner? progress.module ≠ some definition := by
  unfold resolveStep
  cases owned : table.owner? progress.module with
  | none => simp
  | some owner =>
      obtain ⟨member, _⟩ := owner_found table progress.module owner owned
      have named := (resolve_table_binding ⟨settings, modules, progress.module⟩ owner table.properties).1
      simp only [mem_put_definition _ _ _ distinct, named, Option.some.injEq, exists_eq_left']
      refine or_congr_right (and_congr_right fun present => ?_)
      refine not_congr ⟨fun same => ?_, fun same => by rw [Option.some.inj same]⟩
      exact congrArg some (List.inj_on_of_nodup_map distinct member present same.symm)

theorem owner_none (table : SpecTable) (module : Module) : table.owner? module = none ↔
    ∀ localName, table.target.name? = some localName → ∀ binding ∈ bindings module, binding.2 ≠ some localName := by
  simp only [SpecTable.owner?, Option.bind_eq_bind, Option.bind_eq_none_iff, Module.ofLocalName?, List.find?_eq_none,
    decide_eq_true_eq, bindings, List.forall_mem_map]

theorem bound_iff (module : Module) (localName : String) :
    (∃ definition ∈ module.definitions, definition.localName = some localName) ↔
      ∃ binding ∈ bindings module, binding.2 = some localName := by
  simp [bindings]

theorem step_unknown_target (progress : Progress) (table : SpecTable) (localName : String) :
    unknownTarget progress.module.name localName ∈
        (resolveStep settings modules progress table).notices.filterMap (·.warning?) ↔
      unknownTarget progress.module.name localName ∈ progress.notices.filterMap (·.warning?) ∨
        table.owner? progress.module = none ∧ table.target.text = localName := by
  unfold resolveStep
  cases owned : table.owner? progress.module with
  | none =>
      rw [List.filterMap_append, List.mem_append]
      refine or_congr_right ?_
      simp [Notice.warning?, unknownTarget, String.append_left_inj, eq_comm]
  | some owner =>
      rw [List.filterMap_append, List.mem_append]
      refine or_congr_right (iff_of_false (fun listed => ?_) (fun absent => by simp at absent))
      cases about_table ⟨settings, modules, progress.module⟩ owner table.properties _ listed

theorem run_unknown_target (tables : List SpecTable) (progress : Progress)
    (distinct : (progress.module.definitions.map (·.name)).Nodup) (localName : String) :
    unknownTarget progress.module.name localName ∈
        (tables.foldl (resolveStep settings modules) progress).notices.filterMap (·.warning?) ↔
      unknownTarget progress.module.name localName ∈ progress.notices.filterMap (·.warning?) ∨
        ∃ table ∈ tables, table.owner? progress.module = none ∧ table.target.text = localName := by
  induction tables generalizing progress with
  | nil => simp
  | cons table rest ih =>
      have same := resolve_step_bindings settings modules progress table distinct
      have later := ih (resolveStep settings modules progress table) (names_of_bindings _ _ same ▸ distinct)
      rw [resolve_step_name, step_unknown_target] at later
      rw [List.foldl_cons, later, or_assoc, List.exists_mem_cons_iff]
      refine or_congr_right (or_congr_right ?_)
      simp only [owner_none, same]

theorem about_module_congr (before after : Module) (name : after.name = before.name) (same : bindings after = bindings before)
    (warning : Warning) : AboutModule after warning ↔ AboutModule before warning := by
  have names : after.definitions.map (·.name) = before.definitions.map (·.name) := by
    rw [← bindings_names, same, bindings_names]
  have named (module : Module) : (∃ definition ∈ module.definitions, warning.definition = some definition.name) ↔
      ∃ key ∈ module.definitions.map (·.name), warning.definition = some key := by
    simp only [List.mem_map, exists_exists_and_eq_and]
  rw [AboutModule, AboutModule, named, named, name, names]

theorem step_about_module (progress : Progress) (table : SpecTable) (before : Telling (AboutModule progress.module)
    progress.notices) : Telling (AboutModule progress.module) (resolveStep settings modules progress table).notices := by
  unfold resolveStep
  cases owned : table.owner? progress.module with
  | none =>
      refine telling_append _ _ _ before fun warning listed => .inl ⟨table.target.text, ?_⟩
      simpa [Notice.warning?, unknownTarget, eq_comm] using listed
  | some owner =>
      obtain ⟨member, _⟩ := owner_found table progress.module owner owned
      refine telling_append _ _ _ before ?_
      exact telling_table _ ⟨settings, modules, progress.module⟩ owner table.properties
        fun _ _ _ _ => .inr ⟨owner, member, rfl⟩

theorem run_about_module (tables : List SpecTable) (progress : Progress)
    (distinct : (progress.module.definitions.map (·.name)).Nodup)
    (before : Telling (AboutModule progress.module) progress.notices) :
    Telling (AboutModule progress.module) (tables.foldl (resolveStep settings modules) progress).notices := by
  induction tables generalizing progress with
  | nil => exact before
  | cons table rest ih =>
      have same := resolve_step_bindings settings modules progress table distinct
      have agree := about_module_congr progress.module _ (resolve_step_name settings modules progress table) same
      have later := ih (resolveStep settings modules progress table) (names_of_bindings _ _ same ▸ distinct)
        fun warning listed => (agree warning).mpr (step_about_module settings modules progress table before warning listed)
      exact fun warning listed => (agree warning).mp (later warning listed)

theorem run_unbound (tables : List SpecTable) (progress : Progress)
    (distinct : (progress.module.definitions.map (·.name)).Nodup) (definition : Definition)
    (unbound : definition.localName = none) :
    definition ∈ (tables.foldl (resolveStep settings modules) progress).module.definitions ↔
      definition ∈ progress.module.definitions := by
  refine resolve_tables_keep settings modules
    (fun module => definition ∈ module.definitions ↔ definition ∈ progress.module.definitions) ?_ tables progress distinct
    Iff.rfl
  intro later table distinct same
  rw [← same, mem_resolve_step settings modules later table distinct]
  constructor
  · rintro (⟨owner, owned, rfl⟩ | ⟨present, _⟩)
    · obtain ⟨_, localName, _, bound⟩ := owner_found table later.module owner owned
      have kept := (resolve_table_binding ⟨settings, modules, later.module⟩ owner table.properties).2
      rw [unbound, bound] at kept
      cases kept
    · exact present
  · refine fun present => .inr ⟨present, fun owned => ?_⟩
    obtain ⟨_, localName, _, bound⟩ := owner_found table later.module definition owned
    rw [unbound] at bound
    cases bound

theorem run_values (tables : List SpecTable) (progress : Progress)
    (distinct : (progress.module.definitions.map (·.name)).Nodup) (localName : String) (values : List EnumValue)
    (some : values ≠ [])
    (read : ∀ definition ∈ progress.module.definitions, definition.localName = Option.some localName →
      definition.enumValues = Option.some values) :
    ∀ definition ∈ (tables.foldl (resolveStep settings modules) progress).module.definitions,
      definition.localName = Option.some localName → definition.enumValues = Option.some values := by
  refine resolve_tables_keep settings modules (fun module => ∀ definition ∈ module.definitions,
    definition.localName = Option.some localName → definition.enumValues = Option.some values) ?_ tables progress distinct
    read
  intro later table distinct holds definition member bound
  rcases (mem_resolve_step settings modules later table distinct definition).mp member with
    ⟨owner, owned, rfl⟩ | ⟨present, _⟩
  · obtain ⟨present, _⟩ := owner_found table later.module owner owned
    rw [(resolve_table_binding _ _ _).2] at bound
    have known := holds owner present bound
    rw [resolve_table_values _ _ _ (values_known owner values known some), known]
  · exact holds definition present bound

theorem run_shaped (tables : List SpecTable) (progress : Progress)
    (distinct : (progress.module.definitions.map (·.name)).Nodup) (localName : String)
    (shaped : ∃ definition ∈ progress.module.definitions, definition.localName = some localName ∧
      definition.isShell = false) :
    ∃ definition ∈ (tables.foldl (resolveStep settings modules) progress).module.definitions,
      definition.localName = some localName ∧ definition.isShell = false := by
  refine resolve_tables_keep settings modules (fun module => ∃ definition ∈ module.definitions,
    definition.localName = some localName ∧ definition.isShell = false) ?_ tables progress distinct shaped
  rintro later table distinct ⟨definition, member, bound, full⟩
  by_cases owned : table.owner? later.module = some definition
  · refine ⟨_, (mem_resolve_step settings modules later table distinct _).mpr (.inl ⟨definition, owned, rfl⟩), ?_, ?_⟩
    · rw [(resolve_table_binding _ _ _).2, bound]
    · exact resolve_table_shaped _ _ _
  · exact ⟨definition, (mem_resolve_step settings modules later table distinct _).mpr (.inr ⟨member, owned⟩), bound, full⟩

theorem run_tabled (tables : List SpecTable) (progress : Progress)
    (distinct : (progress.module.definitions.map (·.name)).Nodup) (localName : String) (properties : List Node)
    (listed : ⟨.identifier localName, properties⟩ ∈ tables)
    (bound : ∃ definition ∈ progress.module.definitions, definition.localName = some localName) :
    ∃ definition ∈ (tables.foldl (resolveStep settings modules) progress).module.definitions,
      definition.localName = some localName ∧ definition.isShell = false := by
  induction tables generalizing progress with
  | nil => cases listed
  | cons table rest ih =>
      have same := resolve_step_bindings settings modules progress table distinct
      have next := names_of_bindings _ _ same ▸ distinct
      rw [List.foldl_cons]
      rcases List.mem_cons.mp listed with rfl | later
      · obtain ⟨owner, owned⟩ :
            ∃ owner, SpecTable.owner? ⟨.identifier localName, properties⟩ progress.module = some owner := by
          refine Option.ne_none_iff_exists'.mp fun none => ?_
          obtain ⟨binding, present, named⟩ := (bound_iff _ _).mp bound
          exact (owner_none _ _).mp none localName rfl binding present named
        obtain ⟨_, other, target, named⟩ := owner_found _ _ owner owned
        cases target
        refine run_shaped settings modules rest _ next localName ⟨_, (mem_resolve_step settings modules progress _ distinct
          _).mpr (.inl ⟨owner, owned, rfl⟩), ?_, resolve_table_shaped _ _ _⟩
        rw [(resolve_table_binding _ _ _).2, named]
      · refine ih _ next later ?_
        rw [bound_iff, same, ← bound_iff]
        exact bound

end Steps

section Exports
variable (settings : Settings) (modules : List Module) (module : Module)

theorem stands_bound (assignment : Assignment) (stands : Stands settings module.statement assignment) :
    linkDefinition (enumTables settings module.statement) assignment.value
      (exportedShell module.name (exportKey settings assignment)) ∈ (catalogModule settings module).definitions :=
  (mem_catalogued settings module _).mpr ⟨assignment, stands, rfl⟩

theorem kept_last (value : Node) (bound : BoundTo settings module.statement value)
    (kept : Kept settings module.statement value (resolveModule settings modules (catalogModule settings module)).module) :
    LastOfKey settings module.statement value := by
  obtain ⟨definition, member, holds⟩ := kept
  have distinct := catalogued_names settings module
  have same := (resolve_module_bindings settings modules (catalogModule settings module) distinct).2
  obtain ⟨base, present, equal⟩ : ∃ base ∈ (catalogModule settings module).definitions,
      (base.name, base.localName) = (definition.name, definition.localName) := by
    have binding : (definition.name, definition.localName) ∈ bindings (catalogModule settings module) :=
      same ▸ List.mem_map_of_mem member
    exact List.mem_map.mp binding
  cases named : value.name? with
  | some localName =>
      obtain ⟨assignment, stands, rfl⟩ := (mem_catalogued settings module base).mp present
      have aliased : assignment.value.name? = value.name? := (Prod.mk.inj equal).2.trans holds.localName
      refine ⟨assignment, stands, aliased, ?_⟩
      rw [enumValuesOf, enumValuesOf, aliased, named]
  | none =>
      -- No table is for a definition without a local name, so it is as it was linked.
      have unbound : definition.localName = none := holds.localName.trans named
      have untouched :=
        (run_unbound settings modules _ ⟨catalogModule settings module, 0, []⟩ distinct definition unbound).mp member
      obtain ⟨assignment, stands, linked⟩ := (mem_catalogued settings module definition).mp untouched
      have aliased : assignment.value.name? = value.name? := by rw [named, ← unbound, linked]; rfl
      refine ⟨assignment, stands, aliased, ?_⟩
      cases bound with
      | table localName _ _ => cases named
      | enum localName _ _ => cases named
      | direct _ values read =>
          have known : enumValuesOf (enumTables settings module.statement) value = some values := by
            rw [enumValuesOf, named]
            exact read
          have values := holds.values _ known
          rw [linked] at values
          exact values.trans known.symm

theorem direct_unnamed (value : Node) (values : List EnumValue) (read : directEnumValues? value = some values) :
    value.name? = none ∧ values ≠ [] := by
  simp only [directEnumValues?, Option.bind_eq_bind, Option.bind_eq_some_iff] at read
  obtain ⟨application, applied, counted⟩ := read
  refine ⟨?_, enum_values_some _ values counted⟩
  cases value <;> first | rfl | cases applied

theorem catalogued_values (localName : String) (values : List EnumValue)
    (listed : (enumTables settings module.statement).lookup localName = some values) :
    ∀ definition ∈ (catalogModule settings module).definitions, definition.localName = some localName →
      definition.enumValues = some values := by
  intro definition member bound
  obtain ⟨assignment, _, rfl⟩ := (mem_catalogued settings module definition).mp member
  have named : assignment.value.name? = some localName := bound
  change enumValuesOf (enumTables settings module.statement) assignment.value = some values
  rw [enumValuesOf, named]
  exact listed

theorem enum_kept (localName : String) (values : List EnumValue)
    (listed : (enumTables settings module.statement).lookup localName = some values)
    (bound : ∃ definition ∈ (catalogModule settings module).definitions, definition.localName = some localName) :
    Kept settings module.statement (.identifier localName)
      (resolveModule settings modules (catalogModule settings module)).module := by
  have distinct := catalogued_names settings module
  have filled := enum_tables_some settings module.statement localName values listed
  rw [bound_iff, ← (resolve_module_bindings settings modules (catalogModule settings module) distinct).2,
    ← bound_iff] at bound
  obtain ⟨definition, member, named⟩ := bound
  have known := run_values settings modules (specTables settings module.statement) ⟨catalogModule settings module, 0, []⟩
    distinct localName values filled (catalogued_values settings module localName values listed) definition member named
  refine ⟨definition, member, named, values_shaped definition (values_known definition values known filled), ?_⟩
  exact fun other read => known.trans (listed.symm.trans read)

theorem last_kept (value : Node) (bound : BoundTo settings module.statement value)
    (last : LastOfKey settings module.statement value) :
    Kept settings module.statement value (resolveModule settings modules (catalogModule settings module)).module := by
  have distinct := catalogued_names settings module
  obtain ⟨assignment, stands, aliased, values⟩ := last
  have base := stands_bound settings module assignment stands
  cases bound with
  | enum localName read listed => exact enum_kept settings modules module localName read listed ⟨_, base, aliased⟩
  | table localName properties listed =>
      cases read : (enumTables settings module.statement).lookup localName with
      | some read => exact enum_kept settings modules module localName _ read ⟨_, base, aliased⟩
      | none =>
          obtain ⟨definition, member, named, shaped⟩ := run_tabled settings modules (specTables settings module.statement)
            ⟨catalogModule settings module, 0, []⟩ distinct localName properties listed ⟨_, base, aliased⟩
          exact ⟨definition, member, named, shaped, fun values found => absurd (read.symm.trans found) (by simp)⟩
  | direct _ read found =>
      obtain ⟨unnamed, filled⟩ := direct_unnamed value read found
      have known : enumValuesOf (enumTables settings module.statement) value = some read := by
        rw [enumValuesOf, unnamed]
        exact found
      have unbound := aliased.trans unnamed
      refine ⟨_, (run_unbound settings modules _ ⟨catalogModule settings module, 0, []⟩ distinct _ unbound).mpr base,
        aliased, values_shaped _ ?_, fun other same => values.trans same⟩
      simp [Definition.hasValues, Definition.values, linkDefinition, values, known, filled]

theorem lost_reported (value : Node) (lost : ¬ LastOfKey settings module.statement value) :
    Reported module.name value (resolveModule settings modules (catalogModule settings module)).notices ↔
      Tabled settings module.statement value := by
  refine exists_congr fun localName => and_congr_right ?_
  rintro rfl
  have distinct := catalogued_names settings module
  have absent : ∀ binding ∈ bindings (catalogModule settings module), binding.2 ≠ some localName := by
    intro binding member named
    obtain ⟨definition, present, bound⟩ := (bound_iff _ _).mpr ⟨binding, member, named⟩
    obtain ⟨assignment, stands, rfl⟩ := (mem_catalogued settings module definition).mp present
    have aliased : assignment.value.name? = some localName := bound
    exact lost ⟨assignment, stands, aliased, by rw [enumValuesOf, enumValuesOf, aliased, Node.name?]⟩
  have whole := run_unknown_target settings modules (specTables settings module.statement)
    ⟨catalogModule settings module, 0, []⟩ distinct localName
  refine whole.trans ?_
  simp only [List.filterMap_nil, List.not_mem_nil, false_or]
  refine exists_congr fun table => and_congr_right fun _ => and_iff_right_of_imp fun written => ?_
  refine (owner_none table _).mpr fun other target => ?_
  have named := (node_named table.target other).mp target
  rw [named, Node.text] at written
  exact written ▸ absent

end Exports

/-- Of two bound exports, with one key or not, both are kept or a lost one is reported, just where
both are the last of some key or a replaced one has a table. -/
theorem exports_kept_or_reported_iff (settings : Settings) (catalog result : Catalog)
    (resolved : resolve settings (catalogue settings catalog) = .ok result) (module : Module)
    (member : module ∈ catalog.modules) (first second : Assignment)
    (firstBound : BoundTo settings module.statement first.value)
    (secondBound : BoundTo settings module.statement second.value) :
    let progress := resolveModule settings (catalogue settings catalog).modules (catalogModule settings module)
    progress.module ∈ result.modules ∧ progress.module.name = module.name ∧
      (∀ warning ∈ progress.notices.filterMap (·.warning?),
        warning ∈ result.warnings ∧ AboutModule progress.module warning) ∧
      (Kept settings module.statement first.value progress.module ∧
            Kept settings module.statement second.value progress.module ∨
          (∃ lost ∈ [first, second], ¬ Kept settings module.statement lost.value progress.module ∧
            Reported module.name lost.value progress.notices) ↔
        LastOfKey settings module.statement first.value ∧ LastOfKey settings module.statement second.value ∨
          ∃ lost ∈ [first, second], ¬ LastOfKey settings module.statement lost.value ∧
            Tabled settings module.statement lost.value) := by
  intro progress
  obtain ⟨modules, _, warnings⟩ := resolve_result settings _ result resolved
  have listed : catalogModule settings module ∈ (catalogue settings catalog).modules := List.mem_map_of_mem member
  have kept (value : Node) (bound : BoundTo settings module.statement value) :
      Kept settings module.statement value progress.module ↔ LastOfKey settings module.statement value :=
    ⟨kept_last settings _ module value bound, last_kept settings _ module value bound⟩
  have distinct := catalogued_names settings module
  obtain ⟨name, same⟩ := resolve_module_bindings settings (catalogue settings catalog).modules _ distinct
  refine ⟨modules ▸ List.mem_map_of_mem listed, name, fun warning noted => ⟨?_, ?_⟩, ?_⟩
  · rw [warnings, List.mem_append, List.mem_append, List.mem_filterMap]
    obtain ⟨notice, present, found⟩ := List.mem_filterMap.mp noted
    exact .inr (.inl ⟨notice, List.mem_flatMap.mpr ⟨_, listed, present⟩, found⟩)
  · refine (about_module_congr _ _ name same warning).mpr ?_
    exact run_about_module settings _ _ ⟨catalogModule settings module, 0, []⟩ distinct (telling_nil _) warning noted
  · have reported (value : Node) (bound : BoundTo settings module.statement value) :
        ¬ Kept settings module.statement value progress.module ∧ Reported module.name value progress.notices ↔
          ¬ LastOfKey settings module.statement value ∧ Tabled settings module.statement value := by
      rw [kept value bound]
      exact and_congr_right fun lost => lost_reported settings _ module value lost
    simp only [List.exists_mem_cons_iff, List.not_mem_nil, false_and, exists_false, or_false, kept _ firstBound,
      kept _ secondBound, ← reported _ firstBound, ← reported _ secondBound]

namespace Clashing
open Report Hidden

def modeBody : List Node := [entry "OFF" (whole 0), entry "ON" (whole 1)]

def clashing : Module where
  name := "A"
  statement := .block [
    .variableList [.declarator (.identifier "l") (some (.call (.identifier "s") [.object modeBody]))],
    assign "c" "internalSpec" (.object numberTable), assign "i" "Mode" (.identifier "l"),
    assign "i" "ModeSpec" (.identifier "c")]

def modeMessage : Definition where
  name := "Mode"
  localName := some "c"
  members := some [.field { name := "x", id := some 1, type := some "int32" }]
  module := some "A"

def recovered : Catalog where
  modules := [{ clashing with definitions := [modeMessage] }]
  nesting := { paths := [("Mode", "")] }

theorem clashing_assignments : (Script.walk clashing.statement).filterMap assignment? =
    [⟨.identifier "c", "internalSpec", .object numberTable⟩, ⟨.identifier "i", "Mode", .identifier "l"⟩,
      ⟨.identifier "i", "ModeSpec", .identifier "c"⟩] := by
  simp [Script.walk, Script.walkStack, Script.Pending.ofNode, clashing, modeBody, assign, numberTable, entry, token, whole,
    Node.children]
  rfl

theorem clashing_named : namedAssignments {} clashing.statement =
    [⟨.identifier "i", "Mode", .identifier "l"⟩, ⟨.identifier "i", "ModeSpec", .identifier "c"⟩] := by
  rw [namedAssignments, clashing_assignments]
  simp [Settings.reservedProperties]

theorem clashing_tables : specTables {} clashing.statement = [⟨.identifier "c", numberTable⟩] := by
  rw [spec_tables_of_assignments, clashing_assignments]
  rfl

theorem clashing_enums : enumTables {} clashing.statement = [("l", [⟨"OFF", 0⟩, ⟨"ON", 1⟩])] := by
  simp [enumTables, Script.trails, Script.walkTrails, Script.stepsOf, clashing, modeBody, assign, numberTable, entry, token,
    whole, Node.children, List.mapIdx_cons]
  rfl

theorem clashing_resolved : resolve {} (catalogue {} { modules := [clashing] }) = .ok recovered := by
  have catalogued : catalogModule {} clashing = { clashing with definitions := [{ modeMessage with members := none }] } := by
    rw [catalogModule, clashing_enums, clashing_named]
    simp [shells, exportKey]
    decide
  have registered : registerModule {} {} clashing = { paths := [("Mode", "")] } := by
    rw [registerModule, clashing_named]
    simp [exportKey]
    decide
  have owner : SpecTable.owner? ⟨.identifier "c", numberTable⟩
      { clashing with definitions := [{ modeMessage with members := none }] } =
        some { modeMessage with members := none } := rfl
  simp only [resolve, catalogue, List.map_cons, List.map_nil, catalogued, Resolved.ofCatalog, resolveModule,
    clashing_tables, List.foldl_cons, List.foldl_nil, registered, resolveStep, owner, number_table_read]
  rfl

theorem clashing_bound : BoundTo {} clashing.statement (.identifier "l") ∧
    BoundTo {} clashing.statement (.identifier "c") := by
  refine ⟨.enum "l" [⟨"OFF", 0⟩, ⟨"ON", 1⟩] ?_, .table "c" numberTable ?_⟩
  · rw [clashing_enums]
    rfl
  · rw [clashing_tables]
    exact List.mem_cons_self

theorem clash_loses_enum : ∃ first ∈ namedAssignments {} clashing.statement,
    ∃ second ∈ namedAssignments {} clashing.statement, exportKey {} first = "Mode" ∧ exportKey {} second = "Mode" ∧
      first.value = .identifier "l" ∧ second.value = .identifier "c" ∧
      BoundTo {} clashing.statement first.value ∧ BoundTo {} clashing.statement second.value ∧
      ∃ result, resolve {} (catalogue {} { modules := [clashing] }) = .ok result ∧ result.warnings = [] ∧
        ∀ definition ∈ result.definitions, definition.localName ≠ some "l" ∧ definition.enumValues = none := by
  -- The enum is gone, and no warning says so.
  refine ⟨⟨.identifier "i", "Mode", .identifier "l"⟩, by simp [clashing_named],
    ⟨.identifier "i", "ModeSpec", .identifier "c"⟩, by simp [clashing_named], by decide, by decide, rfl, rfl,
    clashing_bound.1, clashing_bound.2, recovered, clashing_resolved, rfl, ?_⟩
  simp [Catalog.definitions, recovered, modeMessage]

end Clashing

open Clashing in
theorem exports_kept_or_reported_iff_clashing :
    resolve {} (catalogue {} { modules := [clashing] }) = .ok recovered ∧
      BoundTo {} clashing.statement (.identifier "l") ∧ BoundTo {} clashing.statement (.identifier "c") ∧
      ¬ (LastOfKey {} clashing.statement (.identifier "l") ∧ LastOfKey {} clashing.statement (.identifier "c") ∨
          ∃ lost ∈ namedAssignments {} clashing.statement, ¬ LastOfKey {} clashing.statement lost.value ∧
            Tabled {} clashing.statement lost.value) := by
  obtain ⟨present, _, noted, exactly⟩ := exports_kept_or_reported_iff {} _ recovered clashing_resolved clashing
    List.mem_cons_self ⟨.identifier "i", "Mode", .identifier "l"⟩ ⟨.identifier "i", "ModeSpec", .identifier "c"⟩
    clashing_bound.1 clashing_bound.2
  refine ⟨clashing_resolved, clashing_bound.1, clashing_bound.2, ?_⟩
  rw [clashing_named, ← exactly]
  rintro (⟨⟨definition, member, holds⟩, _⟩ | ⟨lost, _, _, localName, _, reported⟩)
  · rw [List.mem_singleton.mp present] at member
    rw [List.mem_singleton.mp member] at holds
    exact absurd holds.localName (by decide)
  · exact absurd (noted _ reported).1 List.not_mem_nil

end SchemaRecovery.Recovery
