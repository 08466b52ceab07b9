import SchemaRecovery.Proofs.Recovery.Convention

set_option autoImplicit false

namespace SchemaRecovery.Recovery

open Script (Node)
open Schema (Field Member)

def outside (names : List String) (fields : List Field) : List Field := fields.filter fun field => field.name ∉ names

theorem outside_names (names : List String) (fields : List Field) (distinct : (fields.map (·.name)).Nodup) :
    ((outside names fields).map (·.name)).Nodup := distinct.sublist (List.filter_sublist.map _)

theorem mem_outside_names (names : List String) (fields : List Field) (name : String) :
    name ∈ (outside names fields).map (·.name) ↔ name ∈ fields.map (·.name) ∧ name ∉ names := by
  simp only [outside, List.mem_map, List.mem_filter, decide_eq_true_eq]
  constructor
  · rintro ⟨field, ⟨member, absent⟩, rfl⟩
    exact ⟨⟨field, member, rfl⟩, absent⟩
  · rintro ⟨⟨field, member, rfl⟩, absent⟩
    exact ⟨field, ⟨member, absent⟩, rfl⟩

theorem outside_outside (first second : List String) (fields : List Field) :
    outside second (outside first fields) = outside (first ++ second) fields := by
  simp only [outside, List.filter_filter, List.mem_append, not_or, Bool.decide_and]
  simp only [Bool.and_comm]

theorem outside_cons (names : List String) (field : Field) (rest : List Field) :
    outside names (field :: rest) = if field.name ∈ names then outside names rest else field :: outside names rest := by
  by_cases gone : field.name ∈ names <;> simp [outside, gone]

theorem field_named_cons (field : Field) (rest : List Field) (name : String) :
    fieldNamed (field :: rest) name = if field.name = name then some field else fieldNamed rest name := by
  by_cases same : field.name = name <;> simp [fieldNamed, same]

theorem field_named_outside (names : List String) (fields : List Field) (name : String) (absent : name ∉ names) :
    fieldNamed (outside names fields) name = fieldNamed fields name := by
  induction fields with
  | nil => rfl
  | cons field rest ih =>
      rw [outside_cons, field_named_cons]
      by_cases same : field.name = name
      · rw [if_neg (same ▸ absent), field_named_cons, if_pos same, if_pos same]
      · rw [if_neg same, ← ih]
        split
        · rfl
        · rw [field_named_cons, if_neg same]

theorem outside_absent (name : String) (fields : List Field) (absent : name ∉ fields.map (·.name)) :
    outside [name] fields = fields := by
  refine List.filter_eq_self.mpr ?_
  intro field member
  have different : field.name ≠ name := fun same => absent (List.mem_map.mpr ⟨field, member, same⟩)
  simp [different]

theorem take_field_declared (fields : List Field) (name : String) (distinct : (fields.map (·.name)).Nodup)
    (declared : name ∈ fields.map (·.name)) :
    ∃ field, fieldNamed fields name = some field ∧
      takeField name (fields.map .field) = some (field, (outside [name] fields).map .field) := by
  induction fields with
  | nil => cases declared
  | cons field rest ih =>
      rw [List.map_cons, List.nodup_cons] at distinct
      by_cases same : field.name = name
      · have alone : outside [name] (field :: rest) = rest := by
          rw [outside_cons, if_pos (by simp [same]), outside_absent name rest (same ▸ distinct.1)]
        refine ⟨field, by rw [field_named_cons, if_pos same], ?_⟩
        rw [List.map_cons, takeField, if_pos same, alone]
      · have later : name ∈ rest.map (·.name) := by
          rcases List.mem_cons.mp declared with first | later
          · exact absurd first.symm same
          · exact later
        obtain ⟨found, first, taken⟩ := ih distinct.2 later
        have kept : outside [name] (field :: rest) = field :: outside [name] rest := by
          rw [outside_cons, if_neg (by simp [same])]
        refine ⟨found, ?_, ?_⟩
        · rwa [field_named_cons, if_neg same]
        · rw [List.map_cons, takeField, if_neg same, taken, kept]
          rfl

theorem declared_outside (taken names : List String) (fields : List Field) (apart : taken.Disjoint names)
    (declared : ∀ name ∈ names, name ∈ fields.map (·.name)) :
    ∀ name ∈ names, name ∈ (outside taken fields).map (·.name) := by
  intro name member
  exact (mem_outside_names _ _ _).mpr ⟨declared name member, fun before => apart before member⟩

theorem fields_named_outside (taken names : List String) (fields : List Field) (apart : taken.Disjoint names) :
    names.filterMap (fieldNamed (outside taken fields)) = names.filterMap (fieldNamed fields) := by
  refine List.filterMap_congr ?_
  intro name member
  exact field_named_outside taken fields name fun before => apart before member

theorem group_elements (scope : Scope) (definition group : String) (names : List String) (elements : List Node)
    (written : List.Forall₂ (fun name element => Node.stringValue? element = some name) names elements)
    (fields taken : List Field) (distinct : (fields.map (·.name)).Nodup) (apart : names.Nodup)
    (declared : ∀ name ∈ names, name ∈ fields.map (·.name)) :
    (elements.map some).foldl (groupElement scope definition group) ⟨fields.map .field, taken, []⟩ =
      ⟨(outside names fields).map .field, taken ++ names.filterMap (fieldNamed fields), []⟩ := by
  induction written generalizing fields taken with
  | nil => simp [outside]
  | cons text rest ih =>
      rename_i name element names elements
      obtain ⟨absent, apart⟩ := List.nodup_cons.mp apart
      obtain ⟨field, found, taking⟩ := take_field_declared fields name distinct (declared name List.mem_cons_self)
      have step : groupElement scope definition group ⟨fields.map .field, taken, []⟩ (some element) =
          ⟨(outside [name] fields).map .field, taken ++ [field], []⟩ := by
        simp only [groupElement, Option.bind_some, text, taking]
      have disjoint : [name].Disjoint names := List.singleton_disjoint.mpr absent
      have left := declared_outside [name] names fields disjoint fun other member =>
        declared other (List.mem_cons_of_mem _ member)
      rw [List.map_cons, List.foldl_cons, step, ih _ _ (outside_names _ _ distinct) apart left, outside_outside,
        fields_named_outside [name] names fields disjoint, List.filterMap_cons_some found, List.append_assoc]
      rfl

theorem taken_fields_exist (names : List String) (fields : List Field) (distinct : (fields.map (·.name)).Nodup)
    (filled : names ≠ []) (declared : ∀ name ∈ names, name ∈ fields.map (·.name)) :
    (names.filterMap (fieldNamed fields)).isEmpty = false := by
  cases names with
  | nil => exact absurd rfl filled
  | cons name rest =>
      obtain ⟨field, found, _⟩ := take_field_declared fields name distinct (declared name List.mem_cons_self)
      rw [List.filterMap_cons_some found]
      rfl

theorem group_properties (scope : Scope) (definition : String) (groups : List GroupSource) (table : List Node)
    (written : List.Forall₂ WritesGroup groups table) (fields : List Field) (oneofs : List Schema.Oneof)
    (distinct : (fields.map (·.name)).Nodup) (filled : ∀ group ∈ groups, group.members ≠ [])
    (apart : (groups.flatMap (·.members)).Nodup)
    (declared : ∀ group ∈ groups, ∀ name ∈ group.members, name ∈ fields.map (·.name)) :
    table.foldl (groupProperty scope definition) ⟨fields.map .field, oneofs, []⟩ =
      ⟨(outside (groups.flatMap (·.members)) fields).map .field, oneofs ++ groups.map (·.recovered fields), []⟩ := by
  induction written generalizing fields oneofs with
  | nil => simp [outside]
  | cons first rest ih =>
      rename_i group property groups table
      obtain ⟨elements, ⟨keyed, valued⟩, listed⟩ := first
      rw [List.flatMap_cons, List.nodup_append] at apart
      obtain ⟨own, others, between⟩ := apart
      have disjoint : group.members.Disjoint (groups.flatMap (·.members)) :=
        fun name here there => between name here name there rfl
      have mine := declared group List.mem_cons_self
      have step : groupProperty scope definition ⟨fields.map .field, oneofs, []⟩ property =
          ⟨(outside group.members fields).map .field, oneofs ++ [group.recovered fields], []⟩ := by
        have key : keyedProperty? property = some ⟨group.name, .array (elements.map some)⟩ := by
          simp only [keyedProperty?, keyed, valued, Option.bind_eq_bind, Option.bind_some]
        have taken := taken_fields_exist group.members fields distinct (filled group List.mem_cons_self) mine
        simp only [groupProperty, key, group_elements scope definition group.name _ _ listed fields [] distinct own mine,
          List.nil_append, taken, Bool.false_eq_true, if_false, List.append_nil, GroupSource.recovered]
      have theirs : ∀ other ∈ groups, ∀ name ∈ other.members, name ∈ (outside group.members fields).map (·.name) := by
        intro other member
        refine declared_outside group.members other.members fields ?_ (declared other (List.mem_cons_of_mem _ member))
        exact fun name here there => disjoint here (List.mem_flatMap.mpr ⟨other, member, there⟩)
      have same : groups.map (·.recovered (outside group.members fields)) = groups.map (·.recovered fields) := by
        refine List.map_congr_left ?_
        intro other member
        rw [GroupSource.recovered, fields_named_outside, GroupSource.recovered]
        exact fun name here there => disjoint here (List.mem_flatMap.mpr ⟨other, member, there⟩)
      rw [List.foldl_cons, step, ih _ _ (outside_names _ _ distinct)
        (fun other member => filled other (List.mem_cons_of_mem _ member)) others theirs, outside_outside, same,
        List.append_assoc]
      rfl

theorem group_oneofs_written (scope : Scope) (definition : String) (groups : List GroupSource) (table : List Node)
    (written : List.Forall₂ WritesGroup groups table) (fields : List Field) (distinct : (fields.map (·.name)).Nodup)
    (filled : ∀ group ∈ groups, group.members ≠ []) (apart : (groups.flatMap (·.members)).Nodup)
    (declared : ∀ group ∈ groups, ∀ name ∈ group.members, name ∈ fields.map (·.name)) :
    groupOneofs scope definition table (fields.map .field) = (groupedMembers fields groups, []) := by
  simp only [groupOneofs, group_properties scope definition groups table written fields [] distinct filled apart declared,
    List.nil_append, List.map_map, groupedMembers, outside, Function.comp_def]

end SchemaRecovery.Recovery
