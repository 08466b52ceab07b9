import Mathlib.Data.List.Perm.Basic
import SchemaRecovery.Recovery.Resolution

set_option autoImplicit false

namespace SchemaRecovery.Recovery

open Script (Node)
open Schema (Field Member Oneof)

def fieldsOf (members : List Member) : List Field := members.flatMap Member.fields

def Filled (members : List Member) : Prop := ∀ group, Member.oneof group ∈ members → group.members ≠ []

def declaration? (property : KeyedProperty) : Option (String × FieldEntry) :=
  match fieldEntry property.value with
  | .error _ => none
  | .ok entry => some (property.key, entry)

def declaredEntries (settings : Settings) (properties : List Node) : List (String × FieldEntry) :=
  ((properties.filterMap keyedProperty?).filter fun property => !isConstraint settings property).filterMap declaration?

theorem fields_append (a b : List Member) : fieldsOf (a ++ b) = fieldsOf a ++ fieldsOf b := List.flatMap_append

theorem fields_plain (fields : List Field) : fieldsOf (fields.map .field) = fields := by
  induction fields with
  | nil => rfl
  | cons field rest ih => rw [List.map_cons, fieldsOf, List.flatMap_cons, ← fieldsOf, ih]; rfl

theorem fields_groups (groups : List Oneof) : fieldsOf (groups.map .oneof) = groups.flatMap (·.members) := by
  rw [fieldsOf, List.flatMap_map]
  rfl

theorem filled_plain (fields : List Field) : Filled (fields.map .field) := by
  intro group member
  obtain ⟨_, _, same⟩ := List.mem_map.mp member
  cases same

theorem take_field_perm (name : String) (members : List Member) (field : Field) (rest : List Member)
    (taken : takeField name members = some (field, rest)) : members.Perm (.field field :: rest) := by
  induction members generalizing field rest with
  | nil => cases taken
  | cons first later ih =>
      have passed (found : (takeField name later).map (fun found => (found.1, first :: found.2)) = some (field, rest)) :
          (first :: later).Perm (.field field :: rest) := by
        obtain ⟨⟨other, others⟩, inner, same⟩ := Option.map_eq_some_iff.mp found
        cases same
        exact ((ih other others inner).cons first).trans (.swap _ _ _)
      cases first with
      | oneof group => exact passed taken
      | field single =>
          rw [takeField] at taken
          split at taken
          · cases taken
            exact .refl _
          · exact passed taken

section Grouping
variable (scope : Scope) (definition : String)

def Grouping.fields (grouping : Grouping) : List Field := fieldsOf grouping.members ++ grouping.taken

theorem group_element_fields (group : String) (grouping : Grouping) (element : Option Node) :
    (groupElement scope definition group grouping element).fields.Perm grouping.fields ∧
      (Filled grouping.members → Filled (groupElement scope definition group grouping element).members) := by
  unfold groupElement
  dsimp only
  split
  · rename_i field rest found
    obtain ⟨name, _, taken⟩ := Option.bind_eq_some_iff.mp found
    have moved := take_field_perm name grouping.members field rest taken
    constructor
    · have fields : (fieldsOf grouping.members).Perm (field :: fieldsOf rest) := moved.flatMap_right _
      have last : (grouping.taken ++ [field]).Perm (field :: grouping.taken) := List.perm_append_singleton _ _
      exact ((last.append_left _).trans List.perm_middle).trans (fields.symm.append_right _)
    · intro filled other member
      exact filled other (moved.mem_iff.mpr (List.mem_cons_of_mem _ member))
  · exact ⟨.refl _, id⟩

theorem group_elements_fields (group : String) (elements : List (Option Node)) (grouping : Grouping) :
    (elements.foldl (groupElement scope definition group) grouping).fields.Perm grouping.fields ∧
      (Filled grouping.members → Filled (elements.foldl (groupElement scope definition group) grouping).members) := by
  induction elements generalizing grouping with
  | nil => exact ⟨.refl _, id⟩
  | cons first rest ih =>
      have step := group_element_fields scope definition group grouping first
      have later := ih (groupElement scope definition group grouping first)
      exact ⟨later.1.trans step.1, later.2 ∘ step.2⟩

def Groups.fields (groups : Groups) : List Field := fieldsOf groups.members ++ groups.groups.flatMap (·.members)

structure Groups.Filled (groups : Groups) : Prop where
  members : Recovery.Filled groups.members
  groups : ∀ group ∈ groups.groups, group.members ≠ []

theorem group_property_fields (groups : Groups) (property : Node) :
    (groupProperty scope definition groups property).fields.Perm groups.fields ∧
      (groups.Filled → (groupProperty scope definition groups property).Filled) := by
  unfold groupProperty
  split
  · rename_i name elements _
    obtain ⟨moved, kept⟩ := group_elements_fields scope definition name elements ⟨groups.members, [], []⟩
    generalize elements.foldl (groupElement scope definition name) ⟨groups.members, [], []⟩ = grouping at moved kept
    have start : Grouping.fields ⟨groups.members, [], []⟩ = fieldsOf groups.members := List.append_nil _
    rw [start] at moved
    dsimp only
    split
    · rename_i empty
      have none : grouping.taken = [] := List.isEmpty_iff.mp empty
      rw [Grouping.fields, none, List.append_nil] at moved
      exact ⟨moved.append_right _, fun filled => ⟨kept filled.members, filled.groups⟩⟩
    · rename_i some
      constructor
      · have rest : (groups.groups.flatMap (·.members) ++ grouping.taken).Perm
            (grouping.taken ++ groups.groups.flatMap (·.members)) := List.perm_append_comm
        simp only [Groups.fields, List.flatMap_append, List.flatMap_cons, List.flatMap_nil, List.append_nil]
        refine (rest.append_left _).trans ?_
        rw [← List.append_assoc]
        exact moved.append_right _
      · intro filled
        refine ⟨kept filled.members, fun group member => ?_⟩
        rcases List.mem_append.mp member with before | new
        · exact filled.groups group before
        · rw [List.mem_singleton.mp new]
          exact fun none => some (List.isEmpty_iff.mpr none)
  · exact ⟨.refl _, fun filled => ⟨filled.members, filled.groups⟩⟩

theorem group_properties_fields (table : List Node) (groups : Groups) :
    (table.foldl (groupProperty scope definition) groups).fields.Perm groups.fields ∧
      (groups.Filled → (table.foldl (groupProperty scope definition) groups).Filled) := by
  induction table generalizing groups with
  | nil => exact ⟨.refl _, id⟩
  | cons first rest ih =>
      have step := group_property_fields scope definition groups first
      have later := ih (groupProperty scope definition groups first)
      exact ⟨later.1.trans step.1, later.2 ∘ step.2⟩

structure Regrouped (before after : List Member × List Notice) : Prop where
  fields : (fieldsOf after.1).Perm (fieldsOf before.1)
  filled : Filled before.1 → Filled after.1
  noted : before.2 ⊆ after.2

theorem group_oneofs_regrouped (table : List Node) (members : List Member) (notices : List Notice) :
    Regrouped (members, notices) ((groupOneofs scope definition table members).1,
      notices ++ (groupOneofs scope definition table members).2) := by
  obtain ⟨moved, kept⟩ := group_properties_fields scope definition table ⟨members, [], []⟩
  refine ⟨?_, fun filled group member => ?_, List.subset_append_left _ _⟩
  · rw [groupOneofs, fields_append, fields_groups]
    have start : Groups.fields ⟨members, [], []⟩ = fieldsOf members := List.append_nil _
    exact start ▸ moved
  · have every := kept ⟨filled, fun group absent => absurd absent List.not_mem_nil⟩
    rcases List.mem_append.mp member with outside | grouped
    · exact every.members group outside
    · obtain ⟨_, listed, same⟩ := List.mem_map.mp grouped
      cases same
      exact every.groups group listed

theorem constraint_regrouped (state : List Member × List Notice) (constraint : KeyedProperty) :
    Regrouped state (applyConstraint scope definition state constraint) := by
  have ignored : Regrouped state (state.1, state.2 ++ [.constraintIgnored definition constraint.key]) :=
    ⟨.refl _, id, List.subset_append_left _ _⟩
  unfold applyConstraint
  split
  · split
    · exact group_oneofs_regrouped scope definition _ state.1 state.2
    · exact ignored
  · exact ignored

theorem constraints_regrouped (constraints : List KeyedProperty) (state : List Member × List Notice) :
    Regrouped state (constraints.foldl (applyConstraint scope definition) state) := by
  induction constraints generalizing state with
  | nil => exact ⟨.refl _, id, fun _ => id⟩
  | cons first rest ih =>
      have step := constraint_regrouped scope definition state first
      have later := ih (applyConstraint scope definition state first)
      exact ⟨later.fields.trans step.fields, later.filled ∘ step.filled, fun _ noted => later.noted (step.noted noted)⟩

def declaredField (entry : String × FieldEntry) : Field := resolveField scope entry.1 entry.2

theorem resolve_entry_declared (property : KeyedProperty) :
    (resolveEntry scope definition property).1 = (declaration? property).map (declaredField scope) := by
  unfold resolveEntry declaration?
  cases fieldEntry property.value <;> rfl

theorem resolve_entry_noted (property : KeyedProperty) (field : Field)
    (declared : (resolveEntry scope definition property).1 = some field) :
    (resolveEntry scope definition property).2 = fieldNotices scope definition field := by
  unfold resolveEntry at declared ⊢
  split
  · rename_i failed
    rw [failed] at declared
    cases declared
  · rename_i read
    rw [read] at declared
    cases declared
    rfl

structure Declares (properties : List Node) (read : List Member × List Notice) : Prop where
  -- The members that a table is read as: all fields that its entries declare, each as often as
  -- it is declared, in whatever groups, and a warning for each one that is unresolved.
  fields : (fieldsOf read.1).Perm ((declaredEntries scope.settings properties).map (declaredField scope))
  filled : Filled read.1
  noted : ∀ field ∈ fieldsOf read.1, fieldNotices scope definition field ⊆ read.2

def readEntries (properties : List Node) : List Member × List Notice :=
  (((declaredEntries scope.settings properties).map (declaredField scope)).map .field,
    properties.flatMap (keylessNotices scope definition) ++
      ((properties.filterMap keyedProperty?).filter fun property => !isConstraint scope.settings property).flatMap
        fun property => (resolveEntry scope definition property).2)

theorem resolve_members_read (properties : List Node) :
    resolveMembers scope definition properties =
      ((properties.filterMap keyedProperty?).filter (isConstraint scope.settings)).foldl (applyConstraint scope definition)
        (readEntries scope definition properties) := by
  let entries := (properties.filterMap keyedProperty?).filter fun property => !isConstraint scope.settings property
  have members : ((entries.map (resolveEntry scope definition)).filterMap fun read => read.1.map Member.field) =
      ((declaredEntries scope.settings properties).map (declaredField scope)).map .field := by
    simp only [List.filterMap_map, Function.comp_def, resolve_entry_declared, declaredEntries, List.map_filterMap,
      Option.map_map, entries]
  have notices : (entries.map (resolveEntry scope definition)).flatMap (·.2) =
      entries.flatMap fun property => (resolveEntry scope definition property).2 := List.flatMap_map _ _ _
  rw [resolveMembers, List.partition_eq_filter_filter, readEntries, ← members, ← notices]
  rfl

theorem resolve_members_declares (properties : List Node) :
    Declares scope definition properties (resolveMembers scope definition properties) := by
  have regrouped := constraints_regrouped scope definition
    ((properties.filterMap keyedProperty?).filter (isConstraint scope.settings)) (readEntries scope definition properties)
  rw [← resolve_members_read] at regrouped
  have moved := regrouped.fields
  rw [readEntries, fields_plain] at moved
  refine ⟨moved, regrouped.filled (filled_plain _), fun field member => ?_⟩
  rw [moved.mem_iff, List.mem_map] at member
  obtain ⟨entry, listed, rfl⟩ := member
  obtain ⟨property, keyed, declared⟩ := List.mem_filterMap.mp listed
  have read : (resolveEntry scope definition property).1 = some (declaredField scope entry) := by
    rw [resolve_entry_declared, declared, Option.map_some]
  intro notice noted
  rw [← resolve_entry_noted scope definition property _ read] at noted
  exact regrouped.noted (List.mem_append_right _ (List.mem_flatMap.mpr ⟨property, keyed, noted⟩))

end Grouping

end SchemaRecovery.Recovery
