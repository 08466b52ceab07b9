import SchemaRecovery.Proofs.Recovery.Catalogued

set_option autoImplicit false

namespace SchemaRecovery.Recovery

open Script (Node)
open Schema (Definition Module mem_put_definition put_definition_distinct)

inductive Underway (schema : List DefinitionSource) (moduleName : String) (source : DefinitionSource) :
    Definition → Prop where
  | before : Underway schema moduleName source (source.catalogued moduleName)
  | after : Underway schema moduleName source (source.recovered schema moduleName)

section Underway
variable {schema : List DefinitionSource} {moduleName : String} {source : DefinitionSource} {definition : Definition}
  (underway : Underway schema moduleName source definition)
include underway

theorem underway_name : definition.name = source.name := by
  cases underway <;> rfl

theorem underway_local_name : definition.localName = some source.localName := by
  cases underway <;> rfl

theorem underway_filled :
    { definition with members := source.body.members? schema } = source.recovered schema moduleName := by
  cases underway <;> rfl

end Underway

structure Resolving (settings : Settings) (schema : List DefinitionSource) (moduleName : String) (statement : Node)
    (progress : Progress) : Prop where
  -- While tables are read, every definition of the schema is there once, and nothing else but
  -- what is foreign to it.
  named : progress.module.name = moduleName
  distinct : (progress.module.definitions.map (·.name)).Nodup
  known : ∀ definition ∈ progress.module.definitions,
    (∃ source ∈ schema, Underway schema moduleName source definition) ∨ Foreign settings schema statement definition
  kept : ∀ source ∈ schema, ∃ definition ∈ progress.module.definitions, Underway schema moduleName source definition
  quiet : progress.notices.filterMap (·.warning?) = []

section Steps
variable (settings : Settings) (schema : List DefinitionSource) (valid : ValidSchema settings schema)
  (moduleName : String) (statement : Node)
include valid

theorem source_of_local_name (source other : DefinitionSource) (member : source ∈ schema) (present : other ∈ schema)
    (same : source.localName = other.localName) : source = other :=
  List.inj_on_of_nodup_map valid.localNames member present same

theorem name_of_source (source : DefinitionSource) (member : source ∈ schema) :
    nameOf schema source.localName = source.name := by
  have listed : (schema.find? fun other => other.localName = source.localName).isSome :=
    List.find?_isSome.mpr ⟨source, member, by simp⟩
  obtain ⟨other, found⟩ := Option.isSome_iff_exists.mp listed
  have same : other.localName = source.localName := by simpa using List.find?_some found
  obtain rfl := source_of_local_name settings schema valid other source (List.mem_of_find?_eq_some found) member same
  simp only [nameOf, found, Option.map_some, Option.getD_some]

theorem resolving_owner (progress : Progress) (resolving : Resolving settings schema moduleName statement progress)
    (source : DefinitionSource) (member : source ∈ schema) :
    ∃ definition, progress.module.ofLocalName? source.localName = some definition ∧
      Underway schema moduleName source definition := by
  have listed : (progress.module.ofLocalName? source.localName).isSome := by
    rw [Module.ofLocalName?, List.find?_isSome]
    obtain ⟨definition, present, underway⟩ := resolving.kept source member
    exact ⟨definition, present, by simp [underway_local_name underway]⟩
  obtain ⟨definition, found⟩ := Option.isSome_iff_exists.mp listed
  have bound : definition.localName = some source.localName := by simpa using List.find?_some found
  refine ⟨definition, found, ?_⟩
  rcases resolving.known definition (List.mem_of_find?_eq_some found) with ⟨other, present, underway⟩ | foreign
  · have same := Option.some.inj ((underway_local_name underway).symm.trans bound)
    exact source_of_local_name settings schema valid other source present member same ▸ underway
  · exact absurd bound (foreign.localName source member)

theorem resolving_aliased (progress : Progress) (resolving : Resolving settings schema moduleName statement progress) :
    Aliased schema progress.module := by
  intro localName listed
  obtain ⟨source, member, rfl⟩ := List.mem_map.mp listed
  obtain ⟨definition, found, underway⟩ := resolving_owner settings schema valid moduleName statement progress resolving
    source member
  exact ⟨definition, found, (underway_name underway).trans (name_of_source settings schema valid source member).symm⟩

theorem resolve_step_written (separate : SeparateNames settings) (modules : List Module) (progress : Progress)
    (resolving : Resolving settings schema moduleName statement progress) (source : DefinitionSource)
    (member : source ∈ schema) (fields : List FieldSource) (groups : List GroupSource)
    (body : source.body = .message fields groups) (properties : List Node)
    (written : WritesTable settings fields groups properties) :
    ∃ notices, notices.filterMap (·.warning?) = [] ∧
      resolveStep settings modules progress ⟨.identifier source.localName, properties⟩ = {
        module := { progress.module with
          definitions := Schema.putDefinition (source.recovered schema moduleName) progress.module.definitions }
        matched := progress.matched + 1
        notices := progress.notices ++ notices } := by
  obtain ⟨definition, found, underway⟩ := resolving_owner settings schema valid moduleName statement progress resolving
    source member
  have aliased := resolving_aliased settings schema valid moduleName statement progress resolving
  have sound : ValidMessage settings (schema.map (·.localName)) fields groups := by
    have sound := valid.bodies source member
    rwa [body] at sound
  obtain ⟨recovered, quiet⟩ := resolve_table_written settings fields groups properties written modules progress.module
    schema aliased separate sound definition
  have result : { definition with members := some (groupedMembers (fields.map (·.recovered schema)) groups) } =
      source.recovered schema moduleName := by
    rw [← underway_filled underway, body]
    rfl
  refine ⟨_, quiet, ?_⟩
  have owner : SpecTable.owner? ⟨.identifier source.localName, properties⟩ progress.module = some definition := found
  simp only [resolveStep, owner, recovered, result]

theorem resolving_put (progress : Progress) (resolving : Resolving settings schema moduleName statement progress)
    (source : DefinitionSource) (member : source ∈ schema) (matched : Nat) (notices : List Notice)
    (quiet : notices.filterMap (·.warning?) = []) :
    Resolving settings schema moduleName statement {
      module := { progress.module with
        definitions := Schema.putDefinition (source.recovered schema moduleName) progress.module.definitions }
      matched := matched
      notices := progress.notices ++ notices } := by
  have put (definition : Definition) :=
    mem_put_definition (source.recovered schema moduleName) definition progress.module.definitions resolving.distinct
  refine ⟨resolving.named, put_definition_distinct _ _ resolving.distinct, ?_, ?_, ?_⟩
  · intro definition present
    rcases (put definition).mp present with rfl | ⟨old, _⟩
    · exact .inl ⟨source, member, .after⟩
    · exact resolving.known definition old
  · intro other listed
    by_cases same : other.name = source.name
    · obtain rfl := List.inj_on_of_nodup_map valid.names listed member same
      exact ⟨_, (put _).mpr (.inl rfl), .after⟩
    · obtain ⟨definition, present, underway⟩ := resolving.kept other listed
      have apart : definition.name ≠ source.name := fun equal => same ((underway_name underway).symm.trans equal)
      exact ⟨definition, (put _).mpr (.inr ⟨present, apart⟩), underway⟩
  · rw [List.filterMap_append, resolving.quiet, quiet, List.nil_append]

theorem resolve_tables_written (separate : SeparateNames settings) (modules : List Module) (tables : List SpecTable)
    (own : ∀ table ∈ tables, ∃ source ∈ schema, ∃ fields groups, table.target = .identifier source.localName ∧
      source.body = .message fields groups ∧ WritesTable settings fields groups table.properties)
    (progress : Progress) (resolving : Resolving settings schema moduleName statement progress) :
    Resolving settings schema moduleName statement (tables.foldl (resolveStep settings modules) progress) ∧
      (tables.foldl (resolveStep settings modules) progress).matched = progress.matched + tables.length ∧
      ∀ source ∈ schema, (source.recovered schema moduleName ∈ progress.module.definitions ∨
          ∃ table ∈ tables, table.target = .identifier source.localName) →
        source.recovered schema moduleName ∈ (tables.foldl (resolveStep settings modules) progress).module.definitions := by
  -- `Resolving` carries the run. A table finds the one definition of its local name and leaves all
  -- others alone, those recovered before it included.
  induction tables generalizing progress with
  | nil => exact ⟨resolving, rfl, fun source _ done => done.resolve_right (by simp)⟩
  | cons table rest ih =>
      obtain ⟨source, member, fields, groups, target, body, written⟩ := own table List.mem_cons_self
      obtain ⟨notices, quiet, step⟩ := resolve_step_written settings schema valid moduleName statement separate modules
        progress resolving source member fields groups body table.properties written
      rw [← target] at step
      have next := resolving_put settings schema valid moduleName statement progress resolving source member
        (progress.matched + 1) notices quiet
      rw [← step] at next
      obtain ⟨after, count, done⟩ := ih (fun other later => own other (List.mem_cons_of_mem _ later)) _ next
      refine ⟨after, ?_, ?_⟩
      · rw [List.foldl_cons, count, step, List.length_cons, Nat.add_assoc, Nat.add_comm 1]
      · intro other listed found
        refine done other listed ?_
        rw [step]
        have put := mem_put_definition (source.recovered schema moduleName) (other.recovered schema moduleName)
          progress.module.definitions resolving.distinct
        by_cases same : other.name = source.name
        · obtain rfl := List.inj_on_of_nodup_map valid.names listed member same
          exact .inl (put.mpr (.inl rfl))
        · rcases found with present | ⟨later, listing, aimed⟩
          · exact .inl (put.mpr (.inr ⟨present, same⟩))
          · rcases List.mem_cons.mp listing with rfl | listing
            · have equal := source_of_local_name settings schema valid other source listed member
                (Node.identifier.inj (aimed.symm.trans target))
              exact absurd (congrArg (·.name) equal) same
            · exact .inr ⟨later, listing, aimed⟩

end Steps

theorem collisions_alone (module : Module) : collisions [module] = [] := by
  refine List.filterMap_eq_nil_iff.mpr ?_
  intro name _
  have single : (ownersOf [module] name).length ≤ 1 := by
    rw [ownersOf, List.length_map]
    exact List.length_filter_le _ _
  exact if_neg (Nat.not_lt.mpr single)

theorem spec_table_assigned (settings : Settings) (node : Node) (table : SpecTable) :
    specTable? settings node = some table ↔
      assignment? node = some ⟨table.target, settings.specProperty, .object table.properties⟩ := by
  unfold specTable?
  split
  · rename_i target property properties assigned
    rw [assigned, Option.ite_none_right_eq_some]
    constructor
    · rintro ⟨rfl, same⟩
      cases same
      rfl
    · intro same
      cases same
      exact ⟨rfl, rfl⟩
  · rename_i other
    constructor
    · intro impossible
      cases impossible
    · intro assigned
      exact absurd assigned (other _ _ _)

theorem mem_spec_tables (settings : Settings) (statement : Node) (table : SpecTable) :
    table ∈ specTables settings statement ↔ ∃ node ∈ Script.walk statement,
      assignment? node = some ⟨table.target, settings.specProperty, .object table.properties⟩ := by
  simp only [specTables, List.mem_filterMap, spec_table_assigned]

section Pipeline
variable (settings : Settings) (separate : SeparateNames settings) (schema : List DefinitionSource)
  (valid : ValidSchema settings schema)
include separate valid

theorem resolve_module_written (modules : List Module) (module : Module)
    (written : Written settings schema module.statement) :
    let progress := resolveModule settings modules (catalogModule settings module)
    Resolving settings schema module.name module.statement progress ∧
      progress.matched = (specTables settings module.statement).length ∧
      ∀ source ∈ schema, source.recovered schema module.name ∈ progress.module.definitions := by
  have start : Resolving settings schema module.name module.statement ⟨catalogModule settings module, 0, []⟩ := by
    refine ⟨rfl, catalogued_names settings module, ?_, ?_, rfl⟩
    · intro definition member
      rcases catalogued_or_foreign settings schema module valid written definition member with
        ⟨source, present, same⟩ | other
      · exact .inl ⟨source, present, same ▸ .before⟩
      · exact .inr other
    · intro source member
      exact ⟨_, catalogued_source settings schema module valid written source member, .before⟩
  have own : ∀ table ∈ specTables settings module.statement, ∃ source ∈ schema, ∃ fields groups,
      table.target = .identifier source.localName ∧ source.body = .message fields groups ∧
        WritesTable settings fields groups table.properties := by
    intro table member
    obtain ⟨node, visited, assigned⟩ := (mem_spec_tables settings _ table).mp member
    exact written.noOtherTable node visited _ _ assigned
  obtain ⟨resolving, count, done⟩ := resolve_tables_written settings schema valid module.name module.statement separate
    modules (specTables settings module.statement) own _ start
  refine ⟨resolving, count.trans (Nat.zero_add _), ?_⟩
  intro source member
  cases body : source.body with
  | message fields groups =>
      obtain ⟨node, visited, properties, assigned⟩ := written.tables source member fields groups body
      have listed := (mem_spec_tables settings _ ⟨_, properties⟩).mpr ⟨node, visited, assigned⟩
      exact done source member (.inr ⟨_, listed, rfl⟩)
  | enum values =>
      have unchanged : source.recovered schema module.name = source.catalogued module.name := by
        simp only [DefinitionSource.recovered, DefinitionSource.catalogued, body, BodySource.members?]
      obtain ⟨_, present, underway⟩ := resolving.kept source member
      cases underway with
      | before => exact unchanged ▸ present
      | after => exact present

/-- Every schema that is written in the convention is recovered as it is, and with it nothing but
names that other assignments export. -/
theorem written_schema_recovered (moduleName : String) (statement : Node) (written : Written settings schema statement) :
    ∃ catalog module,
      (runStages settings Stage.all { modules := [{ name := moduleName, statement := statement }] }).value = .ok catalog ∧
        catalog.modules = [module] ∧ catalog.warnings = [] ∧ module.name = moduleName ∧
        (module.definitions.map (·.name)).Nodup ∧
        (∀ source ∈ schema, source.recovered schema moduleName ∈ module.definitions ∧
          catalog.nesting.pathOf source.name = Schema.Name.nestingPath source.name) ∧
        ∀ definition ∈ module.definitions, (∃ source ∈ schema, definition = source.recovered schema moduleName) ∨
          Foreign settings schema statement definition := by
  let loaded : Module := recordLoads { name := moduleName, statement := statement }
  let start := catalogModule settings loaded
  obtain ⟨resolving, count, recovered⟩ := resolve_module_written settings separate schema valid [start] loaded written
  let catalogued := catalogue settings (crossReference { modules := [{ name := moduleName, statement := statement }] })
  let progress := resolveModule settings [start] start
  have succeeds : (Resolved.ofCatalog settings catalogued).fails = false := by
    have tables : (Resolved.ofCatalog settings catalogued).tables = (specTables settings statement).length :=
      Nat.zero_add _
    have matched : (Resolved.ofCatalog settings catalogued).matched = (specTables settings statement).length :=
      (Nat.zero_add _).trans count
    rw [Resolved.fails, tables, matched]
    by_cases none : (specTables settings statement).length = 0 <;> simp [none]
  have quiet : (Resolved.ofCatalog settings catalogued).warnings = [] := by
    have notices : (Resolved.ofCatalog settings catalogued).notices = progress.notices := List.append_nil _
    have modules : (Resolved.ofCatalog settings catalogued).modules = [progress.module] := rfl
    rw [Resolved.warnings, notices, modules, collisions_alone, List.append_nil]
    exact resolving.quiet
  have resolved : resolve settings catalogued = .ok { catalogued with modules := [progress.module], warnings := [] } := by
    rw [resolve, succeeds, if_neg Bool.false_ne_true, quiet]
    rfl
  refine ⟨{ catalogued with modules := [progress.module], warnings := [] }, progress.module, ?_, rfl, rfl,
    resolving.named, resolving.distinct, ?_, ?_⟩
  · simp only [Stage.all, runStages, Stage.run]
    rw [resolved]
  · intro source member
    exact ⟨recovered source member, registered_source settings schema loaded {} written source member⟩
  · intro definition member
    rcases resolving.known definition member with ⟨source, present, underway⟩ | foreign
    · refine .inl ⟨source, present, ?_⟩
      exact List.inj_on_of_nodup_map resolving.distinct member (recovered source present) (underway_name underway)
    · exact .inr foreign

end Pipeline

namespace Report

def token (table name : String) : Node :=
  .member false (.member false (.identifier "e") (.identifier table)) (.identifier name)

def whole (n : Nat) : Node := .literal (.number (.whole n)) (Decimal.numeral n)

def entry (key : String) (value : Node) : Node := .property false (.identifier key) value

def assign (target property : String) (value : Node) : Node :=
  .expressionStatement (.assignment "=" (.member false (.identifier target) (.identifier property)) value)

def reportTable : List Node :=
  [entry "note" (.array [some (whole 1), some (token "TYPES" "STRING")]),
    entry "__oneofs__" (.object [entry "kind" (.array [some (.literal (.text "status") "'status'")])]),
    entry "status" (.array [some (whole 2), some (token "TYPES" "ENUM"), some (.identifier "l")]),
    entry "items" (.array [some (whole 3), some (.binary "|" (token "TYPES" "MAP") (token "FLAGS" "REPEATED")),
      some (.array [some (token "TYPES" "STRING"), some (.identifier "c")])])]

def statusBody : List Node := [entry "OK" (whole 0), entry "FAIL" (.unary "-" (whole 1))]

def reportModule : Node :=
  .function .expression none [] (.block
    [assign "i" "ReportSpec" (.identifier "c"), assign "c" "internalSpec" (.object reportTable),
      assign "i" "Report$StatusSpec" (.identifier "l"),
      .variableList [.declarator (.identifier "l") (some (.call (.identifier "s") [.object statusBody]))]])

def reportFields : List FieldSource :=
  [⟨"note", 1, .scalar "STRING", []⟩, ⟨"status", 2, .enum "l", []⟩,
    ⟨"items", 3, .map (.scalar "STRING") (.named "c"), ["REPEATED"]⟩]

def reportSchema : List DefinitionSource :=
  [⟨"Report", "c", .message reportFields [⟨"kind", ["status"]⟩]⟩,
    ⟨"Report$Status", "l", .enum [⟨"OK", 0⟩, ⟨"FAIL", -1⟩]⟩]

def built? : Node → Option (String × List Node)
  | .declarator (.identifier localName) (some (.call _ arguments)) => some (localName, arguments)
  | .assignment _ (.identifier localName) (.call _ arguments) => some (localName, arguments)
  | _ => none

theorem built_iff (localName : String) (arguments : List Node) (node : Node) :
    built? node = some (localName, arguments) ↔ Builds localName arguments node := by
  constructor
  · intro found
    unfold built? at found
    split at found
    · cases found
      exact .declared _
    · cases found
      exact .assigned _ _
    · cases found
  · rintro (_ | _)
    · rfl
    · rfl

theorem report_assignments : (Script.walk reportModule).filterMap assignment? =
    [⟨.identifier "i", "ReportSpec", .identifier "c"⟩, ⟨.identifier "c", "internalSpec", .object reportTable⟩,
      ⟨.identifier "i", "Report$StatusSpec", .identifier "l"⟩] := by
  simp [Script.walk, Script.walkStack, Script.Pending.ofNode, reportModule, assign, reportTable, statusBody, entry, token,
    whole, Node.children]
  rfl

theorem report_built : (Script.walk reportModule).filterMap built? = [("l", [.object statusBody])] := by
  simp [Script.walk, Script.walkStack, Script.Pending.ofNode, reportModule, assign, reportTable, statusBody, entry, token,
    whole, Node.children]
  rfl

theorem report_valid : ValidSchema {} reportSchema := by
  refine ⟨by decide, by decide, ?_⟩
  simp only [reportSchema, List.forall_mem_cons]
  refine ⟨?_, ?_, by simp⟩
  · exact ⟨by decide, by decide, by decide, by decide, by decide, by decide, by decide⟩
  · exact ⟨_, _, rfl, by decide⟩

theorem report_separate : SeparateNames {} := ⟨by decide, by decide⟩

theorem report_table_written : WritesTable {} reportFields [⟨"kind", ["status"]⟩] reportTable := by
  have note : WritesField {} ⟨"note", 1, .scalar "STRING", []⟩
      (entry "note" (.array [some (whole 1), some (token "TYPES" "STRING")])) :=
    ⟨_, ⟨rfl, rfl⟩, .short _ _ rfl ⟨_, [], rfl, rfl, .nil⟩ (.scalar _ _)⟩
  have status : WritesField {} ⟨"status", 2, .enum "l", []⟩
      (entry "status" (.array [some (whole 2), some (token "TYPES" "ENUM"), some (.identifier "l")])) :=
    ⟨_, ⟨rfl, rfl⟩, .long _ _ _ rfl ⟨_, [], rfl, rfl, .nil⟩ (.enum _)⟩
  have items : WritesField {} ⟨"items", 3, .map (.scalar "STRING") (.named "c"), ["REPEATED"]⟩
      (entry "items" (.array [some (whole 3), some (.binary "|" (token "TYPES" "MAP") (token "FLAGS" "REPEATED")),
        some (.array [some (token "TYPES" "STRING"), some (.identifier "c")])])) :=
    ⟨_, ⟨rfl, rfl⟩, .long _ _ _ rfl ⟨_, [_], rfl, rfl, .cons rfl .nil⟩ (.map _ _ _ _ (.scalar _ _ rfl) (.named _))⟩
  have kind : WritesGroup ⟨"kind", ["status"]⟩ (entry "kind" (.array [some (.literal (.text "status") "'status'")])) :=
    ⟨[_], ⟨rfl, rfl⟩, .cons rfl .nil⟩
  exact .grouped [_] [_, _] [_] _ (.cons note (.cons status (.cons items .nil))) ⟨rfl, rfl⟩ (.cons kind .nil)

theorem status_body_written : List.Forall₂ WritesValue [⟨"OK", 0⟩, ⟨"FAIL", -1⟩] statusBody :=
  .cons ⟨_, ⟨rfl, rfl⟩, rfl⟩ (.cons ⟨_, ⟨rfl, rfl⟩, rfl⟩ .nil)

theorem report_named : namedAssignments {} reportModule =
    [⟨.identifier "i", "ReportSpec", .identifier "c"⟩, ⟨.identifier "i", "Report$StatusSpec", .identifier "l"⟩] := by
  rw [namedAssignments, report_assignments]
  simp [Settings.reservedProperties]

theorem report_written : Written {} reportSchema reportModule := by
  have exported (name : String) (value : Node) :
      (∃ node ∈ Script.walk reportModule, Exports {} name value node) ↔
        name = "Report" ∧ value = .identifier "c" ∨ name = "Report$Status" ∧ value = .identifier "l" := by
    have first : exportKey {} ⟨.identifier "i", "ReportSpec", .identifier "c"⟩ = "Report" := by decide
    have second : exportKey {} ⟨.identifier "i", "Report$StatusSpec", .identifier "l"⟩ = "Report$Status" := by decide
    simp only [named_assignment, report_named, List.mem_cons, List.not_mem_nil, or_false, exists_eq_or_imp,
      exists_eq_left, first, second, eq_comm]
  have assigned (assignment : Assignment) : (∃ node ∈ Script.walk reportModule, assignment? node = some assignment) ↔
      assignment ∈ (Script.walk reportModule).filterMap assignment? := List.mem_filterMap.symm
  have built (localName : String) (arguments : List Node) :
      (∃ node ∈ Script.walk reportModule, Builds localName arguments node) ↔
        localName = "l" ∧ arguments = [.object statusBody] := by
    simp only [← built_iff, ← List.mem_filterMap, report_built, List.mem_singleton, Prod.mk.injEq]
  refine ⟨?_, ?_, ?_, ?_, ?_, ?_⟩
  · simp only [reportSchema, List.forall_mem_cons, exported]
    simp
  · intro source member node visited name value exports
    have known := (exported name value).mp ⟨node, visited, exports⟩
    simp only [reportSchema, List.mem_cons, List.not_mem_nil, or_false] at member
    rcases member with rfl | rfl <;> rcases known with ⟨rfl, rfl⟩ | ⟨rfl, rfl⟩ <;> simp
  · intro source member fields groups body
    simp only [reportSchema, List.mem_cons, List.not_mem_nil, or_false] at member
    rcases member with rfl | rfl
    · obtain ⟨node, visited, found⟩ := (assigned ⟨.identifier "c", "internalSpec", .object reportTable⟩).mpr
        (by simp [report_assignments])
      exact ⟨node, visited, reportTable, found⟩
    · cases body
  · intro node visited target properties found
    have known := (assigned _).mp ⟨node, visited, found⟩
    simp only [report_assignments, List.mem_cons, List.not_mem_nil, or_false, Assignment.mk.injEq] at known
    rcases known with ⟨_, impossible, _⟩ | ⟨rfl, _, same⟩ | ⟨_, impossible, _⟩
    · exact absurd impossible (by decide)
    · cases same
      exact ⟨_, List.mem_cons_self, _, _, rfl, rfl, report_table_written⟩
    · exact absurd impossible (by decide)
  · intro source member values body
    simp only [reportSchema, List.mem_cons, List.not_mem_nil, or_false] at member
    rcases member with rfl | rfl
    · cases body
    · cases body
      obtain ⟨node, visited, builds⟩ := (built "l" [.object statusBody]).mpr ⟨rfl, rfl⟩
      exact ⟨node, visited, statusBody, builds, status_body_written⟩
  · intro source member node visited arguments builds properties argument values some writes
    obtain ⟨owner, rfl⟩ := (built _ _).mp ⟨node, visited, builds⟩
    simp only [reportSchema, List.mem_cons, List.not_mem_nil, or_false] at member
    rcases member with rfl | rfl
    · exact absurd owner (by decide)
    · cases List.mem_singleton.mp argument
      have counted := (enum_values_written statusBody values).mpr ⟨some, writes⟩
      have expected := (enum_values_written statusBody _).mpr ⟨List.cons_ne_nil _ _, status_body_written⟩
      rw [Option.some.inj (counted.symm.trans expected)]

end Report

open Report in
theorem written_schema_recovered_report :
    SeparateNames {} ∧ ValidSchema {} reportSchema ∧ Written {} reportSchema reportModule ∧
      ∃ catalog module,
        (runStages {} Stage.all { modules := [{ name := "Report.pb", statement := reportModule }] }).value = .ok catalog ∧
          catalog.modules = [module] ∧ catalog.warnings = [] ∧ module.name = "Report.pb" ∧
          (module.definitions.map (·.name)).Nodup ∧
          (∀ source ∈ reportSchema, source.recovered reportSchema "Report.pb" ∈ module.definitions ∧
            catalog.nesting.pathOf source.name = Schema.Name.nestingPath source.name) ∧
          ∀ definition ∈ module.definitions,
            (∃ source ∈ reportSchema, definition = source.recovered reportSchema "Report.pb") ∨
              Foreign {} reportSchema reportModule definition :=
  ⟨report_separate, report_valid, report_written,
    written_schema_recovered {} report_separate reportSchema report_valid "Report.pb" reportModule report_written⟩

end SchemaRecovery.Recovery
