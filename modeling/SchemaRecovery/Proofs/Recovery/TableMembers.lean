import SchemaRecovery.Proofs.Recovery.Consistency
import SchemaRecovery.Proofs.Recovery.Partition

set_option autoImplicit false

namespace SchemaRecovery.Recovery

open Script (Node)
open Schema (Definition Field Member Warning)

inductive Role where
  | constraint
  | member (name : String) (tag : Int)
  | misfit
deriving Repr, DecidableEq

def entryTag? : Node → Option Int
  | .array [tag, _] => tag.bind (·.integer?)
  | .array [tag, _, _] => tag.bind (·.integer?)
  | _ => none

def roleOf (settings : Settings) (property : Node) : Role :=
  match property.propertyKey? with
  | none => .misfit
  | some name =>
    if settings.constraintStart.toList <+: name.toList then .constraint
    else
      match property.propertyValue?.bind entryTag? with
      | none => .misfit
      | some tag => .member name tag

def Role.signature? : Role → Option (String × Option Int)
  | member name tag => some (name, some tag)
  | _ => none

def signature (field : Field) : String × Option Int := (field.name, field.id)

def signatures (settings : Settings) (properties : List Node) : List (String × Option Int) :=
  properties.filterMap fun property => (roleOf settings property).signature?

def misfits (settings : Settings) (properties : List Node) : List Node :=
  properties.filter fun property => roleOf settings property = .misfit

def GroupsFields (settings : Settings) (property : Node) : Prop :=
  -- A constraint that groups fields. Where its value is no table it is ignored, as all other
  -- constraints are.
  settings.constraintStart.toList <+: settings.oneofKey.toList ∧
    ∃ table, Keyed settings.oneofKey (.object table) property

def ofMember (warning : Warning) : Bool :=
  warning.kind = "unrecognized_shape" && !"Unsupported oneof declaration: ".toList.isPrefixOf warning.message.toList

def memberWarnings (notices : List Notice) : List Warning := (notices.filterMap (·.warning?)).filter ofMember

inductive TellsOf (scope : Scope) (definition : String) (property : Node) : Warning → Prop where
  | keyless (unkeyed : property.propertyKey? = none) :
      TellsOf scope definition property ⟨"unrecognized_shape", "Unsupported property in spec table: " ++ property.text,
        some scope.module.name, some definition, none⟩
  | misshapen (key : String) (value : Node) (reason : Misshapen) (keyed : Keyed key value property)
      (failed : fieldEntry value = .error reason) :
      TellsOf scope definition property ⟨"unrecognized_shape", "Skipped member: " ++ reason.message,
        some scope.module.name, some definition, some key⟩

structure Conserved (scope : Scope) (definition : Definition) (properties : List Node)
    (result : Definition × List Notice) : Prop where
  -- A definition after its table has been read. Fields in groups count as fields, and what the
  -- definition held before makes no difference.
  message : result.1.isMessage = true
  kept : { result.1 with members := definition.members } = definition
  replaced : ∀ before, resolveTable scope { definition with members := before } properties = result
  fields : (result.1.allFields.map signature).Perm (signatures scope.settings properties)
  ordered : (∀ property ∈ properties, ¬ GroupsFields scope.settings property) →
    ∃ fields : List Field, result.1.members = some (fields.map .field) ∧
      fields.map signature = signatures scope.settings properties
  warned : ∃ warnings, warnings.Perm (memberWarnings result.2) ∧
    List.Forall₂ (TellsOf scope definition.name) (misfits scope.settings properties) warnings

inductive Reads (settings : Settings) (property : Node) : Role → Prop where
  | keyless (unkeyed : property.propertyKey? = none) (unread : keyedProperty? property = none) :
      Reads settings property .misfit
  | constraint (keyed : KeyedProperty) (read : keyedProperty? property = some keyed)
      (begins : isConstraint settings keyed = true) : Reads settings property .constraint
  | member (keyed : KeyedProperty) (read : keyedProperty? property = some keyed)
      (other : isConstraint settings keyed = false) (entry : FieldEntry) (declared : fieldEntry keyed.value = .ok entry) :
      Reads settings property (.member keyed.key entry.tag)
  | misshapen (keyed : KeyedProperty) (read : keyedProperty? property = some keyed)
      (other : isConstraint settings keyed = false) (reason : Misshapen)
      (failed : fieldEntry keyed.value = .error reason) : Reads settings property .misfit

theorem entry_tag (value : Node) :
    (∃ entry, fieldEntry value = .ok entry ∧ entryTag? value = some entry.tag) ∨
      ∃ reason, fieldEntry value = .error reason ∧ entryTag? value = none := by
  have tagged (tag type reference : Option Node) :
      (∃ entry, entryOf tag type reference = .ok entry ∧ tag.bind (·.integer?) = some entry.tag) ∨
        ∃ reason, entryOf tag type reference = .error reason ∧ tag.bind (·.integer?) = none := by
    unfold entryOf
    cases tag.bind (·.integer?) with
    | none => exact .inr ⟨_, rfl, rfl⟩
    | some n => exact .inl ⟨_, rfl, rfl⟩
  unfold fieldEntry
  split
  · exact tagged _ _ _
  · exact tagged _ _ _
  · rename_i elements short long
    refine .inr ⟨_, rfl, ?_⟩
    unfold entryTag?
    split
    · rename_i same
      cases same
      exact absurd rfl (short _ _)
    · rename_i same
      cases same
      exact absurd rfl (long _ _ _)
    · rfl
  · rename_i other
    refine .inr ⟨_, rfl, ?_⟩
    unfold entryTag?
    split
    · exact absurd rfl (other _)
    · exact absurd rfl (other _)
    · rfl

theorem keyed_value (property : Node) (name : String) (named : property.propertyKey? = some name) :
    ∃ value, Keyed name value property := by
  cases property with
  | property computed key value => exact ⟨value, named, rfl⟩
  | _ => cases named

theorem keyed_read (property : Node) (keyed : KeyedProperty) (read : keyedProperty? property = some keyed) :
    Keyed keyed.key keyed.value property := by
  obtain ⟨name, named, rest⟩ := Option.bind_eq_some_iff.mp read
  obtain ⟨value, valued, same⟩ := Option.bind_eq_some_iff.mp rest
  cases same
  exact ⟨named, valued⟩

theorem role_reads (settings : Settings) (property : Node) : Reads settings property (roleOf settings property) := by
  unfold roleOf
  cases named : property.propertyKey? with
  | none => exact .keyless named (by rw [keyedProperty?, named]; rfl)
  | some name =>
      obtain ⟨value, keyed⟩ := keyed_value property name named
      have read := keyed_property name value property keyed
      rw [keyed.2, Option.bind_some]
      by_cases begins : settings.constraintStart.toList <+: name.toList
      · simp only [if_pos begins]
        exact .constraint _ read (List.isPrefixOf_iff_prefix.mpr begins)
      · have other : isConstraint settings ⟨name, value⟩ = false :=
          Bool.eq_false_iff.mpr fun start => begins (List.isPrefixOf_iff_prefix.mp start)
        simp only [if_neg begins]
        rcases entry_tag value with ⟨entry, declared, tag⟩ | ⟨reason, failed, untagged⟩
        · rw [tag]
          exact .member _ read other entry declared
        · rw [untagged]
          exact .misshapen _ read other reason failed

theorem signatures_cons (settings : Settings) (first : Node) (rest : List Node) :
    signatures settings (first :: rest) = (roleOf settings first).signature?.toList ++ signatures settings rest :=
  filter_map_first _ _ _

theorem declared_signatures (settings : Settings) (properties : List Node) :
    (declaredEntries settings properties).map (fun entry => (entry.1, some entry.2.tag)) =
      signatures settings properties := by
  induction properties with
  | nil => rfl
  | cons first rest ih =>
      rw [signatures_cons, ← ih]
      have reads := role_reads settings first
      generalize roleOf settings first = role at reads
      unfold declaredEntries
      cases reads with
      | keyless unkeyed unread => rw [List.filterMap_cons_none unread]; rfl
      | constraint keyed read begins =>
          rw [List.filterMap_cons_some read, List.filter_cons_of_neg (by simp [begins])]
          rfl
      | member keyed read other entry declared =>
          have taken : declaration? keyed = some (keyed.key, entry) := by rw [declaration?, declared]
          rw [List.filterMap_cons_some read, List.filter_cons_of_pos (by simp [other]), List.filterMap_cons_some taken]
          rfl
      | misshapen keyed read other reason failed =>
          have refused : declaration? keyed = none := by rw [declaration?, failed]
          rw [List.filterMap_cons_some read, List.filter_cons_of_pos (by simp [other]), List.filterMap_cons_none refused]
          rfl

theorem member_warnings_append (a b : List Notice) : memberWarnings (a ++ b) = memberWarnings a ++ memberWarnings b := by
  rw [memberWarnings, List.filterMap_append, List.filter_append]
  rfl

theorem member_warnings_none (notices : List Notice)
    (others : ∀ warning, .warning warning ∈ notices → ofMember warning = false) : memberWarnings notices = [] := by
  refine List.filter_eq_nil_iff.mpr fun warning listed => ?_
  obtain ⟨notice, noted, found⟩ := List.mem_filterMap.mp listed
  cases notice with
  | warning other =>
      obtain rfl := Option.some.inj found
      simp [others other noted]
  | _ => cases found

theorem told_of_member (scope : Scope) (definition : String) (property : Node) (warning : Warning)
    (told : TellsOf scope definition property warning) : ofMember warning = true := by
  cases told <;> simp [ofMember, List.isPrefixOf]

section Constraints
variable (scope : Scope) (definition : String)

theorem formed_notices_apart (members : List Member) (earlier : List String) (table : List Node) :
    memberWarnings (formedNotices scope definition members earlier table) = [] := by
  induction table generalizing earlier with
  | nil => rfl
  | cons first rest ih =>
      rw [formed_notices_cons, member_warnings_append, ih, List.append_nil]
      apply member_warnings_none
      intro warning noted
      unfold groupNotices at noted
      split at noted
      · cases List.mem_singleton.mp noted
        simp [ofMember, List.isPrefixOf]
      · rcases List.mem_append.mp noted with missing | empty
        · obtain ⟨given, listed, right⟩ := List.mem_filterMap.mp missing
          obtain ⟨place, bound, same⟩ := List.mem_mapIdx.mp listed
          subst same
          unfold answer at right
          split at right
          · cases right
          · cases right
            rfl
        · split at empty
          · cases List.mem_singleton.mp empty
            rfl
          · cases empty

theorem constraint_warnings (state : List Member × List Notice) (constraint : KeyedProperty) :
    memberWarnings (applyConstraint scope definition state constraint).2 = memberWarnings state.2 := by
  have ignored : memberWarnings (state.2 ++ [.constraintIgnored definition constraint.key]) = memberWarnings state.2 := by
    rw [member_warnings_append]
    exact List.append_nil _
  unfold applyConstraint
  split
  · split
    · rw [group_oneofs_formed]
      dsimp only
      rw [member_warnings_append, formed_notices_apart, List.append_nil]
    · exact ignored
  · exact ignored

theorem constraints_warnings (constraints : List KeyedProperty) (state : List Member × List Notice) :
    memberWarnings (constraints.foldl (applyConstraint scope definition) state).2 = memberWarnings state.2 := by
  induction constraints generalizing state with
  | nil => rfl
  | cons first rest ih => rw [List.foldl_cons, ih, constraint_warnings]

theorem constraints_ungrouped (constraints : List KeyedProperty) (state : List Member × List Notice)
    (ungrouped : ∀ constraint ∈ constraints, ∀ table,
      constraint.key = scope.settings.oneofKey → constraint.value ≠ .object table) :
    (constraints.foldl (applyConstraint scope definition) state).1 = state.1 := by
  induction constraints generalizing state with
  | nil => rfl
  | cons first rest ih =>
      rw [List.foldl_cons, ih _ fun constraint member => ungrouped constraint (List.mem_cons_of_mem _ member)]
      unfold applyConstraint
      split
      · rename_i table valued
        have other : first.key ≠ scope.settings.oneofKey := fun same => ungrouped first List.mem_cons_self table same valued
        rw [if_neg other]
      · rfl

def propertyNotices (property : Node) : List Notice :=
  keylessNotices scope definition property ++
    (((keyedProperty? property).filter fun keyed => !isConstraint scope.settings keyed).toList.flatMap
      fun keyed => (resolveEntry scope definition keyed).2)

theorem property_notices_read (properties : List Node) :
    (readEntries scope definition properties).2.Perm (properties.flatMap (propertyNotices scope definition)) := by
  have entries : ((properties.filterMap keyedProperty?).filter fun keyed => !isConstraint scope.settings keyed) =
      properties.flatMap fun property =>
        ((keyedProperty? property).filter fun keyed => !isConstraint scope.settings keyed).toList := by
    rw [List.filter_filterMap, ← List.filterMap_eq_flatMap_toList]
  rw [readEntries, entries, List.flatMap_assoc]
  exact List.flatMap_append_perm _ _ _

theorem property_told (property : Node) :
    (roleOf scope.settings property = .misfit ∧ ∃ warning, TellsOf scope definition property warning ∧
      memberWarnings (propertyNotices scope definition property) = [warning]) ∨
    (roleOf scope.settings property ≠ .misfit ∧ memberWarnings (propertyNotices scope definition property) = []) := by
  have alone (warning : Warning) (told : TellsOf scope definition property warning) :
      memberWarnings [.warning warning] = [warning] :=
    List.filter_cons_of_pos (told_of_member scope definition property warning told)
  have reads := role_reads scope.settings property
  generalize roleOf scope.settings property = role at reads
  unfold propertyNotices keylessNotices
  cases reads with
  | keyless unkeyed unread =>
      rw [unread]
      exact .inl ⟨rfl, _, .keyless unkeyed, alone _ (.keyless unkeyed)⟩
  | constraint keyed read begins =>
      rw [read]
      refine .inr ⟨nofun, ?_⟩
      simp [begins, Option.filter, memberWarnings]
  | member keyed read other entry declared =>
      rw [read]
      refine .inr ⟨nofun, ?_⟩
      simp only [List.nil_append, Option.filter, other, Bool.not_false, if_true, Option.toList_some, List.flatMap_cons,
        List.flatMap_nil, List.append_nil]
      apply member_warnings_none
      intro warning noted
      simp only [resolveEntry, declared, fieldNotices, List.mem_map] at noted
      obtain ⟨_, _, same⟩ := noted
      cases same
      rfl
  | misshapen keyed read other reason failed =>
      rw [read]
      have told := @TellsOf.misshapen scope definition property keyed.key keyed.value reason
        (keyed_read property keyed read) failed
      refine .inl ⟨rfl, _, told, ?_⟩
      simp only [List.nil_append, Option.filter, other, Bool.not_false, if_true, Option.toList_some, List.flatMap_cons,
        List.flatMap_nil, List.append_nil, resolveEntry, failed]
      exact alone _ told

theorem misfits_told (properties : List Node) :
    List.Forall₂ (TellsOf scope definition) (misfits scope.settings properties)
      (memberWarnings (properties.flatMap (propertyNotices scope definition))) := by
  induction properties with
  | nil => exact .nil
  | cons first rest ih =>
      rw [List.flatMap_cons, member_warnings_append]
      rcases property_told scope definition first with ⟨misfit, warning, told, alone⟩ | ⟨other, quiet⟩
      · rw [misfits, List.filter_cons_of_pos (by simp [misfit]), alone]
        exact .cons told ih
      · rw [misfits, List.filter_cons_of_neg (by simp [other]), quiet]
        exact ih

end Constraints

theorem table_read (scope : Scope) (definition : Definition) (properties : List Node)
    (uncounted : enumValues? (.object properties) = none) :
    ∃ notices, memberWarnings notices = memberWarnings (resolveMembers scope definition.name properties).2 ∧
      ∀ before, resolveTable scope { definition with members := before } properties =
        ({ definition with members := some (resolveMembers scope definition.name properties).1 }, notices) := by
  let read := resolveMembers scope definition.name properties
  refine ⟨read.2 ++ [.resolved definition.name (fieldsOf read.1).length], ?_, fun before => ?_⟩
  · rw [member_warnings_append]
    exact List.append_nil _
  · rw [resolveTable, uncounted]
    rfl

/-- A table loses no member, whatever it holds besides. -/
theorem table_conserved (scope : Scope) (definition : Definition) (properties : List Node)
    (uncounted : enumValues? (.object properties) = none) :
    Conserved scope definition properties (resolveTable scope definition properties) := by
  obtain ⟨notices, same, read⟩ := table_read scope definition properties uncounted
  have result : resolveTable scope definition properties = _ := read definition.members
  have declared (entry : String × FieldEntry) :
      signature (declaredField scope entry) = (entry.1, some entry.2.tag) := by
    have consistent := declared_consistent scope entry
    rw [signature, consistent.name, consistent.tag]
  have signed : ((declaredEntries scope.settings properties).map (declaredField scope)).map signature =
      signatures scope.settings properties := by
    simp only [List.map_map, Function.comp_def, declared, declared_signatures]
  rw [result]
  refine ⟨rfl, rfl, read, ?_, fun ungrouped => ?_, ?_⟩
  · have fields := (resolve_members_declares scope definition.name properties).fields.map signature
    rw [signed] at fields
    exact fields
  · refine ⟨(declaredEntries scope.settings properties).map (declaredField scope), ?_, signed⟩
    rw [resolve_members_read, constraints_ungrouped]
    · rfl
    · intro constraint member table named valued
      obtain ⟨present, begins⟩ := List.mem_filter.mp member
      obtain ⟨property, listed, keyed⟩ := List.mem_filterMap.mp present
      have stands := keyed_read property constraint keyed
      rw [named, valued] at stands
      rw [isConstraint, named] at begins
      exact ungrouped property listed ⟨List.isPrefixOf_iff_prefix.mp begins, table, stands⟩
  · refine ⟨_, ?_, misfits_told scope definition.name properties⟩
    rw [same, resolve_members_read, constraints_warnings]
    exact ((property_notices_read scope definition.name properties).symm.filterMap _).filter _

namespace Mixed
open Report (entry token whole)

def table : List Node :=
  [entry "__required__" (.array [some (whole 7), some (token "TYPES" "STRING")]),
    entry "kind" (.array [some (whole 1), some (token "TYPES" "INT32")]),
    entry "note" (.array [some (whole 3)]),
    .operand .spread (some (.identifier "more")),
    entry "__oneofs__" (.object [entry "choice" (.array [some (.literal (.text "kind") "'kind'")])]),
    entry "kind" (.array [some (whole 2), none, none])]

def scope : Scope := ⟨{}, [], ⟨"Mixed", .program [], [], []⟩⟩

end Mixed

theorem table_conserved_mixed : enumValues? (.object Mixed.table) = none ∧
    Conserved Mixed.scope { name := "Mixed" } Mixed.table (resolveTable Mixed.scope { name := "Mixed" } Mixed.table) ∧
    signatures {} Mixed.table = [("kind", some 1), ("kind", some 2)] ∧ (misfits {} Mixed.table).length = 2 :=
  ⟨rfl, table_conserved _ _ _ rfl, by decide, by decide⟩

end SchemaRecovery.Recovery
