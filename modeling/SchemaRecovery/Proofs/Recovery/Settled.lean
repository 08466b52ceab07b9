import SchemaRecovery.Proofs.Recovery.Clash
import SchemaRecovery.Proofs.Recovery.Scope

set_option autoImplicit false

namespace SchemaRecovery.Recovery

open Script (Node)
open Schema (Catalog Definition EnumValue Member Module putDefinition)

def SpecTable.values? (table : SpecTable) : Option (List EnumValue) := enumValues? (.object table.properties)

def SpecTable.members? (scope : Scope) (definition : String) (table : SpecTable) : Option (List Member) :=
  match table.values? with
  | some _ => none
  | none => some (resolveMembers scope definition table.properties).1

def settledMembers (scope : Scope) (tables : List SpecTable) (definition : Definition) : Option (List Member) :=
  (tables.reverse.findSome? (·.members? scope definition.name)).or definition.members

def settledValues (tables : List SpecTable) (definition : Definition) : Option (List EnumValue) :=
  if definition.hasValues then definition.enumValues
  else (tables.findSome? (·.values?)).or definition.enumValues

def settled (scope : Scope) (tables : List SpecTable) (definition : Definition) : Definition :=
  { definition with
    members := settledMembers scope tables definition
    enumValues := settledValues tables definition }

def ownerName? (module : Module) (table : SpecTable) : Option String := (table.owner? module).map (·.name)

def tablesOf (settings : Settings) (module : Module) (name : String) : List SpecTable :=
  (specTables settings module.statement).filter fun table => ownerName? module table = some name

def reading (scope : Scope) (module : Module) : List Definition :=
  module.definitions.map fun definition =>
    settled scope (tablesOf scope.settings module definition.name) definition

def tableNotices (scope : Scope) (table : SpecTable) : List Notice :=
  match ownerName? scope.module table with
  | none => [.warning (unknownTarget scope.module.name table.target.text)]
  | some name => (resolveTable scope { name := name } table.properties).2

theorem owner_name_same (a b : Module) (same : bindings a = bindings b) (table : SpecTable) :
    ownerName? a table = ownerName? b table := by
  rw [ownerName?, ownerName?, owner_name_binding, owner_name_binding, same]

theorem tables_of_same (settings : Settings) (a b : Module) (statement : a.statement = b.statement)
    (same : bindings a = bindings b) (name : String) : tablesOf settings a name = tablesOf settings b name := by
  simp only [tablesOf, statement, owner_name_same a b same]

@[simp] theorem settled_name (scope : Scope) (tables : List SpecTable) (definition : Definition) :
    (settled scope tables definition).name = definition.name := rfl

theorem settled_nil (scope : Scope) (definition : Definition) : settled scope [] definition = definition := by
  simp [settled, settledMembers, settledValues]

theorem reading_bindings (scope : Scope) (module : Module) :
    (reading scope module).map (fun definition => (definition.name, definition.localName)) = bindings module := by
  simp [reading, bindings, settled, Function.comp_def]

theorem resolve_table_notices (scope : Scope) (a b : Definition) (same : a.name = b.name) (properties : List Node) :
    (resolveTable scope a properties).2 = (resolveTable scope b properties).2 := by
  unfold resolveTable
  split
  · rfl
  · rw [same]
    rfl

theorem settled_cons (scope : Scope) (table : SpecTable) (rest : List SpecTable) (definition : Definition) :
    settled scope (table :: rest) definition =
      settled scope rest (resolveTable scope definition table.properties).1 := by
  unfold resolveTable
  cases counted : enumValues? (.object table.properties) with
  | some values =>
      have first : table.values? = some values := counted
      have filled := enum_values_some _ values counted
      have other : table.members? scope definition.name = none := by rw [SpecTable.members?, first]
      by_cases known : definition.hasValues = true
      · simp [settled, settledMembers, settledValues, List.findSome?_append, other, known]
      · have now : ({ definition with enumValues := some values } : Definition).hasValues = true := by
          simp [Definition.hasValues, Definition.values, filled]
        simp [settled, settledMembers, settledValues, List.findSome?_append, other, known, now, first]
  | none =>
      have first : table.values? = none := counted
      have read : table.members? scope definition.name =
          some (resolveMembers scope definition.name table.properties).1 := by rw [SpecTable.members?, first]
      simp [settled, settledMembers, settledValues, List.findSome?_append, read, first, Definition.hasValues,
        Definition.values]

theorem settled_alike (a b : Scope) (alike : Alike a b) (tables : List SpecTable) (definition : Definition) :
    settled a tables definition = settled b tables definition := by
  have members (table : SpecTable) : table.members? a definition.name = table.members? b definition.name := by
    simp only [SpecTable.members?, resolve_members_alike a b alike]
  simp only [settled, settledMembers, members]

theorem reading_alike (a b : Scope) (alike : Alike a b) (module : Module) : reading a module = reading b module := by
  simp only [reading, alike.settings, settled_alike a b alike]

theorem members_read_none (scope : Scope) (definition : String) (table : SpecTable) :
    table.members? scope definition = none ↔ table.values? ≠ none := by
  unfold SpecTable.members?
  cases table.values? <;> simp

theorem table_values_some (tables : List SpecTable) (values : List EnumValue)
    (found : tables.findSome? (·.values?) = some values) : values ≠ [] := by
  obtain ⟨table, _, read⟩ := List.exists_of_findSome?_eq_some found
  exact enum_values_some _ values read

theorem settled_members_again (before after : Scope) (tables : List SpecTable) (definition : Definition) :
    settledMembers after tables (settled before tables definition) = settledMembers after tables definition := by
  simp only [settledMembers, settled]
  cases found : tables.reverse.findSome? (·.members? after definition.name) with
  | some members => rfl
  | none =>
      have unread : tables.reverse.findSome? (·.members? before definition.name) = none := by
        simp only [List.findSome?_eq_none_iff, members_read_none] at found ⊢
        exact found
      rw [unread, Option.none_or, Option.none_or]

theorem settled_values_again (scope : Scope) (tables : List SpecTable) (definition : Definition) :
    settledValues tables (settled scope tables definition) = settledValues tables definition := by
  by_cases known : definition.hasValues = true
  · have same : (settled scope tables definition).enumValues = definition.enumValues := if_pos known
    have still : (settled scope tables definition).hasValues = true := by
      rwa [Definition.hasValues, Definition.values, same]
    rw [settledValues, if_pos still, same, settledValues, if_pos known]
  · have same : (settled scope tables definition).enumValues = (tables.findSome? (·.values?)).or definition.enumValues :=
      if_neg known
    cases found : tables.findSome? (·.values?) with
    | none =>
        rw [found, Option.none_or] at same
        have still : ¬ (settled scope tables definition).hasValues = true := by
          rwa [Definition.hasValues, Definition.values, same]
        rw [settledValues, if_neg still, settledValues, if_neg known, same]
    | some values =>
        rw [found, Option.some_or] at same
        have now := values_known _ values same (table_values_some tables values found)
        rw [settledValues, if_pos now, same, settledValues, if_neg known, found, Option.some_or]

theorem settled_again (before after : Scope) (tables : List SpecTable) (definition : Definition) :
    settled after tables (settled before tables definition) = settled after tables definition := by
  rw [settled, settled_members_again, settled_values_again]
  rfl

theorem put_definition_map (definition : Definition) (definitions : List Definition)
    (distinct : (definitions.map (·.name)).Nodup) (present : definition.name ∈ definitions.map (·.name)) :
    putDefinition definition definitions =
      definitions.map fun other => if other.name = definition.name then definition else other := by
  induction definitions with
  | nil => cases present
  | cons first rest ih =>
      rw [List.map_cons, List.nodup_cons] at distinct
      by_cases here : first.name = definition.name
      · have others : ∀ other ∈ rest, (if other.name = definition.name then definition else other) = other := by
          intro other member
          rw [if_neg]
          intro same
          exact distinct.1 (List.mem_map.mpr ⟨other, member, same.trans here.symm⟩)
        rw [putDefinition, if_pos here, List.map_cons, if_pos here, List.map_congr_left others, List.map_id']
      · have later : definition.name ∈ rest.map (·.name) := by
          rw [List.map_cons, List.mem_cons] at present
          exact present.resolve_left (Ne.symm here)
        rw [putDefinition, if_neg here, List.map_cons, if_neg here, ih distinct.2 later]

section Run
variable (scope : Scope)

structure NamesKept (progress : Progress) : Prop where
  name : progress.module.name = scope.module.name
  loads : progress.module.loads = scope.module.loads
  same : bindings progress.module = bindings scope.module
  distinct : (progress.module.definitions.map (·.name)).Nodup

def afterTables (tables : List SpecTable) (progress : Progress) : Progress where
  module := { progress.module with
    definitions := progress.module.definitions.map fun definition =>
      settled scope (tables.filter fun table => ownerName? scope.module table = some definition.name) definition }
  matched := progress.matched + tables.countP fun table => (ownerName? scope.module table).isSome
  notices := progress.notices ++ tables.flatMap (tableNotices scope)

theorem names_kept_step (progress : Progress) (names : NamesKept scope progress) (table : SpecTable) :
    NamesKept scope (resolveStep scope.settings scope.modules progress table) := by
  have same := resolve_step_bindings scope.settings scope.modules progress table names.distinct
  refine ⟨(resolve_step_name _ _ progress table).trans names.name, Eq.trans ?_ names.loads,
    same.trans names.same, names_of_bindings _ _ same ▸ names.distinct⟩
  unfold resolveStep
  split <;> rfl

theorem resolve_step_settled (progress : Progress) (names : NamesKept scope progress) (table : SpecTable) :
    resolveStep scope.settings scope.modules progress table = afterTables scope [table] progress := by
  have alike : Alike ⟨scope.settings, scope.modules, progress.module⟩ scope :=
    alike_of_bindings _ _ rfl names.name names.loads names.same fun _ _ => rfl
  have owned := owner_name_same _ _ names.same table
  rw [resolveStep, afterTables]
  cases owner : table.owner? progress.module with
  | none =>
      rw [ownerName?, owner] at owned
      have notices : tableNotices scope table = [.warning (unknownTarget progress.module.name table.target.text)] := by
        rw [tableNotices, ← owned, names.name]
        rfl
      simp [← owned, settled_nil, notices, unknownTarget]
  | some definition =>
      rw [ownerName?, owner] at owned
      obtain ⟨member, _⟩ := owner_found table progress.module definition owner
      have named := (resolve_table_binding scope definition table.properties).1
      have present : (resolveTable scope definition table.properties).1.name ∈
          progress.module.definitions.map (·.name) := named ▸ List.mem_map_of_mem member
      have definitions : putDefinition (resolveTable scope definition table.properties).1 progress.module.definitions =
          progress.module.definitions.map fun other => settled scope
            ([table].filter fun table => ownerName? scope.module table = some other.name) other := by
        rw [put_definition_map _ _ names.distinct present, named]
        refine List.map_congr_left fun other listed => ?_
        by_cases here : other.name = definition.name
        · obtain rfl := List.inj_on_of_nodup_map names.distinct listed member here
          rw [if_pos rfl, List.filter_cons_of_pos (by simp [← owned]), List.filter_nil, settled_cons, settled_nil]
        · rw [if_neg here, List.filter_cons_of_neg (by simp [← owned, Ne.symm here]), List.filter_nil, settled_nil]
      have notices : tableNotices scope table = (resolveTable scope definition table.properties).2 := by
        rw [tableNotices, ← owned]
        exact resolve_table_notices scope { name := definition.name } definition rfl _
      simp only [resolve_table_alike _ _ alike, definitions, ← owned, notices, List.countP_singleton, Option.map_some,
        Option.isSome_some, if_true, List.flatMap_cons, List.flatMap_nil, List.append_nil]

theorem after_tables_cons (table : SpecTable) (rest : List SpecTable) (progress : Progress) :
    afterTables scope (table :: rest) progress = afterTables scope rest (afterTables scope [table] progress) := by
  have definitions (definition : Definition) : settled scope ((table :: rest).filter fun table =>
        ownerName? scope.module table = some definition.name) definition =
      settled scope (rest.filter fun table => ownerName? scope.module table = some definition.name)
        (settled scope ([table].filter fun table => ownerName? scope.module table = some definition.name) definition) := by
    by_cases owned : ownerName? scope.module table = some definition.name
    · simp [owned, settled_cons, settled_nil]
    · simp [owned, settled_nil]
  simp only [afterTables, List.map_map, Function.comp_def, definitions, settled_name, List.countP_cons, List.countP_nil,
    List.flatMap_cons, List.flatMap_nil, List.append_nil, List.append_assoc]
  congr 1
  omega

theorem resolve_tables_settled (tables : List SpecTable) (progress : Progress) (names : NamesKept scope progress) :
    tables.foldl (resolveStep scope.settings scope.modules) progress = afterTables scope tables progress := by
  -- Tables change no names, so the owner of each one is known beforehand.
  induction tables generalizing progress with
  | nil => simp [afterTables, settled_nil]
  | cons table rest ih =>
      rw [List.foldl_cons, ih _ (names_kept_step scope progress names table), resolve_step_settled scope progress names,
        ← after_tables_cons]

end Run

theorem resolve_module_settled (settings : Settings) (modules : List Module) (module : Module)
    (distinct : (module.definitions.map (·.name)).Nodup) :
    resolveModule settings modules module = {
      module := { module with definitions := reading ⟨settings, modules, module⟩ module }
      matched := (specTables settings module.statement).countP fun table => (ownerName? module table).isSome
      notices := (specTables settings module.statement).flatMap (tableNotices ⟨settings, modules, module⟩) } := by
  have start : NamesKept ⟨settings, modules, module⟩ ⟨module, 0, []⟩ := ⟨rfl, rfl, rfl, distinct⟩
  have run := resolve_tables_settled ⟨settings, modules, module⟩ (specTables settings module.statement) _ start
  rw [resolveModule, run, afterTables, Nat.zero_add, List.nil_append]
  rfl

end SchemaRecovery.Recovery
