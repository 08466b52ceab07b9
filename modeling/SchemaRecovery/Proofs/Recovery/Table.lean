import SchemaRecovery.Proofs.Recovery.Entry
import SchemaRecovery.Proofs.Recovery.Grouping

set_option autoImplicit false

namespace SchemaRecovery.Recovery

open Script (Node)
open Schema (Definition Field Member Module)

theorem keyed_property (key : String) (value property : Node) (keyed : Keyed key value property) :
    keyedProperty? property = some ⟨key, value⟩ := by
  simp only [keyedProperty?, keyed.1, keyed.2, Option.bind_eq_bind, Option.bind_some]

theorem no_enum_value (key : String) (value property : Node) (keyed : Keyed key value property)
    (uncounted : value.integer? = none) : enumValue? property = none := by
  simp only [enumValue?, keyed.1, keyed.2, uncounted, Option.bind_eq_bind, Option.bind_some, Option.bind_none]

theorem entry_uncounted (settings : Settings) (field : FieldSource) (entry : Node)
    (written : WritesEntry settings field entry) : entry.integer? = none := by
  cases written <;> rfl

section Entries
variable (settings : Settings) (fields : List FieldSource) (entries : List Node)
  (written : List.Forall₂ (WritesField settings) fields entries)
include written

theorem field_of_entry (property : Node) (member : property ∈ entries) :
    ∃ field ∈ fields, WritesField settings field property := by
  induction written with
  | nil => cases member
  | cons first _ ih =>
      rcases List.mem_cons.mp member with rfl | later
      · exact ⟨_, List.mem_cons_self, first⟩
      · obtain ⟨field, present, writes⟩ := ih later
        exact ⟨field, List.mem_cons_of_mem _ present, writes⟩

theorem entries_unreserved (unreserved : ∀ field ∈ fields, ¬ settings.constraintStart.toList <+: field.name.toList) :
    ∀ property ∈ entries.filterMap keyedProperty?, isConstraint settings property = false := by
  intro property member
  obtain ⟨node, present, keyed⟩ := List.mem_filterMap.mp member
  obtain ⟨field, declared, value, keys, _⟩ := field_of_entry settings fields entries written node present
  obtain rfl := Option.some.inj ((keyed_property _ _ _ keys).symm.trans keyed)
  simp only [isConstraint, Bool.eq_false_iff, ne_eq, List.isPrefixOf_iff_prefix]
  exact unreserved field declared

theorem entries_keyed (scope : Scope) (definition : String) : entries.flatMap (keylessNotices scope definition) = [] := by
  refine List.flatMap_eq_nil_iff.mpr ?_
  intro property member
  obtain ⟨field, _, value, keys, _⟩ := field_of_entry settings fields entries written property member
  simp only [keylessNotices, keyed_property _ _ _ keys]

theorem entries_resolved (modules : List Module) (module : Module) (schema : List DefinitionSource)
    (aliased : Aliased schema module) (separate : SeparateNames settings)
    (plain : ∀ field ∈ fields, field.type.Plain)
    (defined : ∀ field ∈ fields, ∀ localName ∈ field.type.references, localName ∈ schema.map (·.localName))
    (definition : String) :
    (entries.filterMap keyedProperty?).map (resolveEntry ⟨settings, modules, module⟩ definition) =
      fields.map fun field => (some (field.recovered schema), []) := by
  induction written with
  | nil => rfl
  | cons first _ ih =>
      obtain ⟨value, keys, entry⟩ := first
      rw [List.filterMap_cons_some (keyed_property _ _ _ keys), List.map_cons, List.map_cons]
      rw [resolve_written_entry settings modules module schema aliased separate _ (plain _ List.mem_cons_self)
        (defined _ List.mem_cons_self) value entry]
      rw [ih (fun field member => plain field (List.mem_cons_of_mem _ member))
        (fun field member => defined field (List.mem_cons_of_mem _ member))]

end Entries

theorem recovered_names (schema : List DefinitionSource) (fields : List FieldSource) :
    (fields.map (·.recovered schema)).map (·.name) = fields.map (·.name) := by
  simp [FieldSource.recovered, Function.comp_def]

theorem members_of_entries (settings : Settings) (modules : List Module) (module : Module)
    (schema : List DefinitionSource) (aliased : Aliased schema module) (separate : SeparateNames settings)
    (fields : List FieldSource) (groups : List GroupSource)
    (valid : ValidMessage settings (schema.map (·.localName)) fields groups) (entries properties : List Node)
    (written : List.Forall₂ (WritesField settings) fields entries) (constraints : List KeyedProperty)
    (parted : (properties.filterMap keyedProperty?).partition (isConstraint settings) =
      (constraints, entries.filterMap keyedProperty?))
    (definition : String)
    (keyed : properties.flatMap (keylessNotices ⟨settings, modules, module⟩ definition) = []) :
    resolveMembers ⟨settings, modules, module⟩ definition properties =
      constraints.foldl (applyConstraint ⟨settings, modules, module⟩ definition)
        ((fields.map (·.recovered schema)).map .field, []) := by
  have resolved := entries_resolved settings fields entries written modules module schema aliased separate valid.plain
    valid.defined definition
  have members : (fields.map fun field => (some (field.recovered schema), ([] : List Notice))).filterMap
      (fun entry => entry.1.map Member.field) = (fields.map (·.recovered schema)).map .field := by
    simp [List.filterMap_map, Function.comp_def]
  have quiet : (fields.map fun field => (some (field.recovered schema), ([] : List Notice))).flatMap (·.2) = [] := by
    simp
  simp only [resolveMembers, parted, resolved, keyed, List.nil_append, members, quiet]

theorem parted_entries (settings : Settings) (fields : List FieldSource) (entries : List Node)
    (written : List.Forall₂ (WritesField settings) fields entries)
    (unreserved : ∀ field ∈ fields, ¬ settings.constraintStart.toList <+: field.name.toList) :
    (entries.filterMap keyedProperty?).partition (isConstraint settings) = ([], entries.filterMap keyedProperty?) := by
  have plain := entries_unreserved settings fields entries written unreserved
  rw [List.partition_eq_filter_filter, List.filter_eq_nil_iff.mpr, List.filter_eq_self.mpr]
  · intro property member
    simp [plain property member]
  · intro property member
    simp [plain property member]

theorem parted_around (settings : Settings) (separate : SeparateNames settings) (before after table : List Node)
    (oneofs : Node) (keyed : Keyed settings.oneofKey (.object table) oneofs)
    (parted : ((before ++ after).filterMap keyedProperty?).partition (isConstraint settings) =
      ([], (before ++ after).filterMap keyedProperty?)) :
    ((before ++ oneofs :: after).filterMap keyedProperty?).partition (isConstraint settings) =
      ([⟨settings.oneofKey, .object table⟩], (before ++ after).filterMap keyedProperty?) := by
  have constraint : isConstraint settings ⟨settings.oneofKey, .object table⟩ = true :=
    List.isPrefixOf_iff_prefix.mpr separate.oneofs
  have key := keyed_property _ _ _ keyed
  simp only [List.partition_eq_filter_filter, List.filterMap_append, List.filter_append, Prod.mk.injEq,
    List.append_eq_nil_iff] at parted
  obtain ⟨⟨early, late⟩, kept⟩ := parted
  simp only [List.partition_eq_filter_filter, List.filterMap_append, List.filter_append, List.filterMap_cons_some key,
    List.filter_cons_of_pos constraint, early, late, List.nil_append, Prod.mk.injEq, true_and]
  rw [← kept]
  simp [constraint]

section Message
variable (settings : Settings) (fields : List FieldSource) (groups : List GroupSource) (properties : List Node)
  (written : WritesTable settings fields groups properties)
include written

theorem table_no_enum : enumValues? (.object properties) = none := by
  have uncounted : ∀ property ∈ properties, enumValue? property = none := by
    have plain (entries : List Node) (written : List.Forall₂ (WritesField settings) fields entries) :
        ∀ property ∈ entries, enumValue? property = none := by
      intro property member
      obtain ⟨field, _, value, keys, entry⟩ := field_of_entry settings fields entries written property member
      exact no_enum_value _ _ _ keys (entry_uncounted settings field value entry)
    cases written with
    | plain _ written _ => exact plain properties written
    | grouped before after table oneofs written keyed _ =>
        intro property member
        rcases List.mem_append.mp member with early | late
        · exact plain _ written property (List.mem_append_left _ early)
        · rcases List.mem_cons.mp late with rfl | late
          · exact no_enum_value _ _ _ keyed rfl
          · exact plain _ written property (List.mem_append_right _ late)
  cases properties with
  | nil => rfl
  | cons first rest =>
      simp only [enumValues?, List.mapM_cons, uncounted first List.mem_cons_self, Option.bind_eq_bind, Option.bind_none]

theorem resolve_members_written (modules : List Module) (module : Module) (schema : List DefinitionSource)
    (aliased : Aliased schema module) (separate : SeparateNames settings)
    (valid : ValidMessage settings (schema.map (·.localName)) fields groups) (definition : String) :
    resolveMembers ⟨settings, modules, module⟩ definition properties =
      (groupedMembers (fields.map (·.recovered schema)) groups, []) := by
  cases written with
  | plain _ written ungrouped =>
      subst ungrouped
      rw [members_of_entries settings modules module schema aliased separate fields [] valid properties properties written
        [] (parted_entries settings fields properties written valid.unreserved) definition
        (entries_keyed settings fields properties written _ definition)]
      simp [groupedMembers]
  | grouped before after table oneofs written keyed listed =>
      have parted := parted_around settings separate before after table oneofs keyed
        (parted_entries settings fields _ written valid.unreserved)
      have quiet := entries_keyed settings fields _ written ⟨settings, modules, module⟩ definition
      have keyless : keylessNotices ⟨settings, modules, module⟩ definition oneofs = [] := by
        simp only [keylessNotices, keyed_property _ _ _ keyed]
      have distinct : ((fields.map (·.recovered schema)).map (·.name)).Nodup := by
        rw [recovered_names]
        exact valid.distinct
      have declared : ∀ group ∈ groups, ∀ name ∈ group.members,
          name ∈ (fields.map (·.recovered schema)).map (·.name) := by
        rw [recovered_names]
        exact valid.declared
      rw [members_of_entries settings modules module schema aliased separate fields groups valid _ _ written _ parted
        definition (by simpa [List.flatMap_append, keyless] using quiet)]
      simp only [List.foldl_cons, List.foldl_nil, applyConstraint, if_true,
        group_oneofs_written ⟨settings, modules, module⟩ definition groups table listed _ distinct valid.filled valid.apart
          declared, List.nil_append]

theorem resolve_table_written (modules : List Module) (module : Module) (schema : List DefinitionSource)
    (aliased : Aliased schema module) (separate : SeparateNames settings)
    (valid : ValidMessage settings (schema.map (·.localName)) fields groups) (definition : Definition) :
    (resolveTable ⟨settings, modules, module⟩ definition properties).1 =
        { definition with members := some (groupedMembers (fields.map (·.recovered schema)) groups) } ∧
      (resolveTable ⟨settings, modules, module⟩ definition properties).2.filterMap (·.warning?) = [] := by
  have members := resolve_members_written settings fields groups properties written modules module schema aliased separate
    valid definition.name
  have table := table_no_enum settings fields groups properties written
  simp only [resolveTable, table, members, List.nil_append]
  exact ⟨trivial, rfl⟩

end Message

end SchemaRecovery.Recovery
