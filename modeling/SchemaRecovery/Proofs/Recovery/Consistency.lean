import SchemaRecovery.Proofs.Recovery.Members
import SchemaRecovery.Proofs.Recovery.Stages
import SchemaRecovery.Proofs.Text.LowerCase

set_option autoImplicit false

namespace SchemaRecovery.Recovery

open Script (Node)
open Schema (Catalog Definition Field Member Module Unresolved Warning)

def typeTokens (settings : Settings) (type : Option Node) : List String :=
  (((typeLeaves type).filterMap tableToken?).filter fun token => token.table = settings.typesTable).map (·.name)

def MapTyped (settings : Settings) (type : Option Node) : Prop :=
  ∃ token, (typeTokens settings type).getLast? = some token ∧ Text.Spells "map".toList token.toList

structure Consistent (settings : Settings) (entry : String × FieldEntry) (field : Field) : Prop where
  name : field.name = entry.1
  tag : field.id = some entry.2.tag
  untyped : field.type = none ↔ field.unresolved.isSome = true
  mapped : field.mapTypes.isSome = true ↔ MapTyped settings entry.2.type ∧ field.unresolved = none
  mapText : ∀ key value, field.mapTypes = some (key, value) → field.type = some ("map<" ++ key ++ ", " ++ value ++ ">")

theorem map_typed_iff (settings : Settings) (type : Option Node) :
    MapTyped settings type ↔ (tokensOf settings.typesTable (typeLeaves type)).getLast? = some "map" := by
  have lowered : tokensOf settings.typesTable (typeLeaves type) = (typeTokens settings type).map Text.lower := by
    simp only [tokensOf, typeTokens, List.map_map, Function.comp_def]
  have plain : ∀ letter ∈ "map".toList, Text.PlainLetter letter := by
    simp [Text.PlainLetter]
  simp only [MapTyped, lowered, List.getLast?_map, Option.map_eq_some_iff, ← Text.lower_iff_spells _ "map" plain]

section Field
variable (scope : Scope)

theorem resolve_type_mapped (entry : FieldEntry) (type : String) (mapTypes : Option (String × String))
    (resolved : resolveType scope entry = .ok (type, mapTypes)) :
    (mapTypes.isSome = true ↔ MapTyped scope.settings entry.type) ∧
      ∀ key value, mapTypes = some (key, value) → type = "map<" ++ key ++ ", " ++ value ++ ">" := by
  rw [map_typed_iff]
  have unmapped (other : (tokensOf scope.settings.typesTable (typeLeaves entry.type)).getLast? ≠ some "map")
      (none : mapTypes = none) : (mapTypes.isSome = true ↔
        (tokensOf scope.settings.typesTable (typeLeaves entry.type)).getLast? = some "map") ∧
      ∀ key value, mapTypes = some (key, value) → type = "map<" ++ key ++ ", " ++ value ++ ">" := by
    simp [none, other]
  unfold resolveType at resolved
  dsimp only at resolved
  split at resolved
  · cases resolved
  · rename_i last
    cases read : resolveMap scope entry.reference with
    | error why =>
        rw [read] at resolved
        cases resolved
    | ok parts =>
        rw [read] at resolved
        cases resolved
        refine ⟨iff_of_true rfl last, fun key value same => ?_⟩
        cases same
        rfl
  · rename_i last
    cases read : resolveReference scope entry.reference false with
    | found name rule =>
        rw [read] at resolved
        cases resolved
        exact unmapped (by rw [last]; decide) rfl
    | failed why =>
        rw [read] at resolved
        cases resolved
  · rename_i last
    cases read : resolveReference scope entry.reference true with
    | found name rule =>
        rw [read] at resolved
        cases resolved
        exact unmapped (by rw [last]; decide) rfl
    | failed why =>
        rw [read] at resolved
        cases resolved
  · rename_i scalar other _ _ last
    cases resolved
    exact unmapped (by rw [last]; exact fun same => other (Option.some.inj same)) rfl

theorem declared_consistent (entry : String × FieldEntry) :
    Consistent scope.settings entry (declaredField scope entry) := by
  obtain ⟨name, entry⟩ := entry
  unfold declaredField resolveField
  dsimp only
  cases resolved : resolveType scope entry with
  | error why =>
      refine ⟨rfl, rfl, by simp, by simp, nofun⟩
  | ok found =>
      obtain ⟨type, mapTypes⟩ := found
      obtain ⟨mapped, text⟩ := resolve_type_mapped scope entry type mapTypes resolved
      refine ⟨rfl, rfl, by simp, by simpa using mapped, fun key value same => ?_⟩
      exact congrArg some (text key value same)

variable (definition : String) (properties : List Node) (read : List Member × List Notice)
  (declares : Declares scope definition properties read)
include declares

theorem declares_consistent : ∃ fields : List Field, fields.Perm (fieldsOf read.1) ∧
    List.Forall₂ (Consistent scope.settings) (declaredEntries scope.settings properties) fields := by
  refine ⟨_, declares.fields.symm, List.forall₂_map_right_iff.mpr ?_⟩
  exact List.forall₂_same.mpr fun entry _ => declared_consistent scope entry

theorem declares_warned (field : Field) (member : field ∈ fieldsOf read.1) (untyped : field.type = none) :
    ∃ message, scope.warn "unresolved_reference" message definition (some field.name) ∈ read.2 := by
  obtain ⟨entry, _, rfl⟩ := List.mem_map.mp (declares.fields.mem_iff.mp member)
  have unresolved := (declared_consistent scope entry).untyped.mp untyped
  obtain ⟨why, reason⟩ := Option.isSome_iff_exists.mp unresolved
  have noted := declares.noted _ member
  rw [fieldNotices, reason] at noted
  exact ⟨_, noted List.mem_cons_self⟩

end Field

structure Accounted (settings : Settings) (module : Module) (warnings : List Warning) (definition : Definition) : Prop where
  -- What becomes of the tables of a definition: the last one with fields is read, every field
  -- that it declares is there as often as it is declared, and those without a type are warned
  -- of.
  groups : ∀ group ∈ definition.oneofs, group.members ≠ []
  declared : definition.isMessage = true → ∃ before table after,
    tablesOf settings module definition.name = before ++ table :: after ∧ table.values? = none ∧
      (∀ later ∈ after, later.values? ≠ none) ∧
      ∃ fields : List Field, fields.Perm definition.allFields ∧
        List.Forall₂ (Consistent settings) (declaredEntries settings table.properties) fields
  warned : ∀ field ∈ definition.allFields, field.type = none → ∃ warning ∈ warnings,
    warning.kind = "unresolved_reference" ∧ warning.module = some module.name ∧
      warning.definition = some definition.name ∧ warning.field = some field.name

theorem accounted_field (settings : Settings) (module : Module) (warnings : List Warning) (definition : Definition)
    (accounted : Accounted settings module warnings definition) (field : Field) (member : field ∈ definition.allFields) :
    ∃ entry, Consistent settings entry field := by
  have message : definition.isMessage = true := by
    cases members : definition.members with
    | none =>
        rw [Definition.allFields, Definition.memberList, members] at member
        cases member
    | some _ => rw [Definition.isMessage, members]; rfl
  obtain ⟨_, _, _, _, _, _, fields, moved, declared⟩ := accounted.declared message
  obtain ⟨entry, _, consistent⟩ := forall₂_source _ _ _ declared field (moved.mem_iff.mpr member)
  exact ⟨entry, consistent⟩

theorem members_read_some (scope : Scope) (definition : String) (table : SpecTable) (members : List Member)
    (read : table.members? scope definition = some members) :
    table.values? = none ∧ members = (resolveMembers scope definition table.properties).1 := by
  unfold SpecTable.members? at read
  split at read
  · cases read
  · rename_i uncounted
    cases read
    exact ⟨uncounted, rfl⟩

theorem settled_members_read (scope : Scope) (tables : List SpecTable) (base : Definition) (unread : base.members = none)
    (members : List Member) (read : (settled scope tables base).members = some members) :
    ∃ before table after, tables = before ++ table :: after ∧ table.values? = none ∧
      (∀ later ∈ after, later.values? ≠ none) ∧ members = (resolveMembers scope base.name table.properties).1 := by
  simp only [settled, settledMembers, unread, Option.or_none] at read
  obtain ⟨after, table, before, split, found, passed⟩ := List.findSome?_eq_some_iff.mp read
  obtain ⟨uncounted, same⟩ := members_read_some scope base.name table members found
  refine ⟨before.reverse, table, after.reverse, ?_, uncounted, fun later member => ?_, same⟩
  · rw [← List.reverse_reverse tables, split]
    simp
  · exact (members_read_none scope base.name later).mp (passed later (List.mem_reverse.mp member))

section Settled
variable (settings : Settings) (modules : List Module) (module : Module)

theorem table_notices_read (table : SpecTable) (name : String) (owned : ownerName? module table = some name)
    (uncounted : table.values? = none) :
    (resolveMembers ⟨settings, modules, module⟩ name table.properties).2 ⊆
      tableNotices ⟨settings, modules, module⟩ table := by
  have counted : enumValues? (.object table.properties) = none := uncounted
  intro notice noted
  simp only [tableNotices, owned, resolveTable, counted]
  exact List.mem_append_left _ noted

theorem settled_accounted (base : Definition) (unread : base.members = none) (warnings : List Warning)
    (noted : ∀ table ∈ specTables settings module.statement, ∀ warning,
      .warning warning ∈ tableNotices ⟨settings, modules, module⟩ table → warning ∈ warnings) :
    Accounted settings module warnings
      (settled ⟨settings, modules, module⟩ (tablesOf settings module base.name) base) := by
  generalize becomes : settled ⟨settings, modules, module⟩ (tablesOf settings module base.name) base = definition
  have name : definition.name = base.name := becomes ▸ rfl
  cases members : definition.members with
  | none =>
      have list : definition.memberList = [] := by rw [Definition.memberList, members, Option.getD_none]
      refine ⟨?_, ?_, ?_⟩
      · simp [Definition.oneofs, list]
      · simp [Definition.isMessage, members]
      · simp [Definition.allFields, list]
  | some read =>
      have list : definition.memberList = read := by rw [Definition.memberList, members, Option.getD_some]
      obtain ⟨before, table, after, split, uncounted, passed, rfl⟩ :=
        settled_members_read ⟨settings, modules, module⟩ _ base unread read (becomes ▸ members)
      have declares := resolve_members_declares ⟨settings, modules, module⟩ base.name table.properties
      refine ⟨fun group member => ?_, fun _ => ?_, fun field member untyped => ?_⟩
      · rw [Definition.oneofs, list, List.mem_filterMap] at member
        obtain ⟨other, listed, same⟩ := member
        cases other with
        | field single => cases same
        | oneof grouped =>
            cases same
            exact declares.filled group listed
      · rw [Definition.allFields, list, name]
        exact ⟨before, table, after, split, uncounted, passed, declares_consistent _ _ _ _ declares⟩
      · rw [Definition.allFields, list] at member
        obtain ⟨message, warned⟩ := declares_warned _ _ _ _ declares field member untyped
        have listed : table ∈ tablesOf settings module base.name := split ▸ List.mem_append_right _ List.mem_cons_self
        obtain ⟨present, owned⟩ := List.mem_filter.mp listed
        have notice := table_notices_read settings modules module table base.name (by simpa using owned) uncounted warned
        exact ⟨_, noted table present _ notice, rfl, rfl, congrArg some name.symm, rfl⟩

theorem resolved_noted (catalog result : Catalog) (resolved : resolve settings catalog = .ok result)
    (present : module ∈ catalog.modules) (distinct : (module.definitions.map (·.name)).Nodup) :
    ∀ table ∈ specTables settings module.statement, ∀ warning,
      .warning warning ∈ tableNotices ⟨settings, catalog.modules, module⟩ table → warning ∈ result.warnings := by
  intro table listed warning noted
  rw [(resolve_result settings catalog result resolved).2.2]
  refine List.mem_append_right _ (List.mem_append_left _ (List.mem_filterMap.mpr ⟨.warning warning, ?_, rfl⟩))
  refine List.mem_flatMap.mpr ⟨module, present, ?_⟩
  rw [resolve_module_settled settings catalog.modules module distinct]
  exact List.mem_flatMap.mpr ⟨table, listed, noted⟩

end Settled

/-- A field of a recovered catalog has a type, or a reason and a warning in its place, whatever
tables and groups it has passed through. -/
theorem fields_consistent (named used : Settings) (origin result : Catalog)
    (resolved : resolve used (catalogue named origin) = .ok result) :
    (∀ module ∈ result.modules, ∀ definition ∈ module.definitions,
      Accounted used module result.warnings definition) ∧
    result.unresolvedFields = result.definitions.flatMap fun definition =>
      (definition.allFields.filter (·.unresolved.isSome)).map (definition, ·) := by
  obtain ⟨modules, _, _⟩ := resolve_result used _ result resolved
  have accounted : ∀ module ∈ result.modules, ∀ definition ∈ module.definitions,
      Accounted used module result.warnings definition := by
    intro module member definition listed
    rw [modules] at member
    obtain ⟨read, present, rfl⟩ := List.mem_map.mp member
    obtain ⟨source, _, rfl⟩ := List.mem_map.mp present
    have distinct := catalogued_names named source
    rw [resolve_module_settled used _ _ distinct] at listed ⊢
    obtain ⟨base, catalogued, rfl⟩ := List.mem_map.mp listed
    obtain ⟨value, _, linked⟩ := catalogued_cases named source base catalogued
    have noted := resolved_noted used (catalogModule named source) (catalogue named origin) result resolved present distinct
    have same (name : String) := tables_of_same used (catalogModule named source)
      { catalogModule named source with
        definitions := reading ⟨used, (catalogue named origin).modules, catalogModule named source⟩ (catalogModule named source) }
      rfl (reading_bindings _ _).symm name
    have accounted := settled_accounted used (catalogue named origin).modules (catalogModule named source) base
      (by rw [linked]; rfl) result.warnings noted
    exact ⟨accounted.groups, same base.name ▸ accounted.declared, accounted.warned⟩
  refine ⟨accounted, List.flatMap_congr fun definition member => ?_⟩
  obtain ⟨module, present, listed⟩ := List.mem_flatMap.mp member
  congr 1
  refine List.filter_congr fun field member => ?_
  obtain ⟨_, consistent⟩ := accounted_field used module _ definition (accounted module present definition listed) field member
  rw [Bool.eq_iff_iff, Option.isNone_iff_eq_none]
  exact consistent.untyped

open Hidden in
theorem fields_consistent_hidden : resolve {} (catalogue {} unread) = .ok Hidden.hidden ∧
    Accounted {} { tabled with definitions := [numbered] } [] numbered ∧ Hidden.hidden.unresolvedFields = [] := by
  obtain ⟨accounted, unresolved⟩ := fields_consistent {} {} unread Hidden.hidden hidden_resolved.1
  refine ⟨hidden_resolved.1, ?_, ?_⟩
  · exact accounted { tabled with definitions := [numbered] } List.mem_cons_self numbered List.mem_cons_self
  · rw [unresolved]
    rfl

end SchemaRecovery.Recovery
