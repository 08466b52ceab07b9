import SchemaRecovery.Proofs.Document.Outline

set_option autoImplicit false

namespace SchemaRecovery.Proto

open Schema (Catalog Definition Field Member Warning)

def FieldPlace.depth : FieldPlace → Nat
  | alone => 1
  | inOneof => 2

def placedFields : Member → List (FieldPlace × Field)
  | .field single => [(.alone, single)]
  | .oneof group => group.members.map fun field => (.inOneof, field)

def fieldsPlaced (definition : Definition) : List (FieldPlace × Field) := definition.memberList.flatMap placedFields

section
variable (place : FieldPlace) (field : Field)

def MayRepeat : Prop := field.mapTypes = none ∧ place = .alone

instance : Decidable (MayRepeat place field) := inferInstanceAs (Decidable (_ ∧ _))

-- The only label that is ever written is that of a list.
def label : String := if "repeated" ∈ field.flags ∧ MayRepeat place field then "repeated " else ""

def packing : String :=
  if "packed" ∈ field.flags ∧ "repeated" ∈ field.flags ∧ MayRepeat place field then " [packed=true]" else ""

def unpackedFor : Dropped :=
  if field.mapTypes ≠ none then .packedOnMap else if place = .inOneof then .packedInOneof else .packedWithoutRepeated

def unshown : List Dropped :=
  (if "packed" ∈ field.flags ∧ packing place field = "" then [unpackedFor place field] else []) ++
    (if "repeated" ∈ field.flags ∧ label place field = "" ∧ field.mapTypes = none then [.repeatedInOneof] else [])

def modifiedLine (layout : Layout) (message : String) : String :=
  label place field ++ typeText (printedTypes layout message field) ++ " " ++ field.name ++ " = " ++
    Schema.intOr field.id ++ packing place field ++ ";"

theorem keeps_repeated_iff :
    keepsRepeated place field = true ↔ "repeated" ∈ field.flags ∧ MayRepeat place field := by
  have single : field.isMap = false ↔ field.mapTypes = none := by simp [Schema.Field.isMap]
  simp [keepsRepeated, MayRepeat, Schema.Field.hasFlag, single, and_assoc, and_comm (a := place = .alone)]

theorem keeps_packed_iff :
    keepsPacked place field = true ↔ "packed" ∈ field.flags ∧ "repeated" ∈ field.flags ∧ MayRepeat place field := by
  rw [keepsPacked, Bool.and_eq_true, keeps_repeated_iff]
  simp [Schema.Field.hasFlag]

theorem field_line_modified (layout : Layout) (message : String) :
    fieldLine layout message place field = modifiedLine place field layout message := by
  simp only [fieldLine, modifiedLine, label, packing, keeps_repeated_iff, keeps_packed_iff]

theorem dropped_packed_unshown : droppedPacked place field =
    if "packed" ∈ field.flags ∧ packing place field = "" then [unpackedFor place field] else [] := by
  by_cases packed : "packed" ∈ field.flags
  · cases types : field.mapTypes with
    | some pair =>
        simp [droppedPacked, packing, unpackedFor, MayRepeat, Schema.Field.hasFlag, Schema.Field.isMap, packed, types]
    | none =>
        cases place with
        | inOneof =>
            simp [droppedPacked, packing, unpackedFor, MayRepeat, Schema.Field.hasFlag, Schema.Field.isMap, packed, types]
        | alone =>
            by_cases repeats : "repeated" ∈ field.flags <;>
              simp [droppedPacked, packing, unpackedFor, MayRepeat, Schema.Field.hasFlag, Schema.Field.isMap, packed,
                types, repeats]
  · simp [droppedPacked, Schema.Field.hasFlag, packed]

theorem dropped_repeated_unshown : droppedRepeated place field =
    if "repeated" ∈ field.flags ∧ label place field = "" ∧ field.mapTypes = none then [.repeatedInOneof] else [] := by
  cases place <;> cases types : field.mapTypes <;> by_cases repeats : "repeated" ∈ field.flags <;>
    simp [droppedRepeated, label, MayRepeat, Schema.Field.hasFlag, Schema.Field.isMap, types, repeats]

theorem dropped_unshown : dropped place field = unshown place field := by
  rw [dropped, unshown, dropped_packed_unshown, dropped_repeated_unshown]

end

def modifierWarnings (definition : Definition) : List Warning :=
  (fieldsPlaced definition).flatMap fun placed => (unshown placed.1 placed.2).map fun mark =>
    ⟨mark.kind, mark.message, definition.module, some definition.name, some placed.2.name⟩

def modifierKinds : List String := ["packed_on_map", "packed_in_oneof", "packed_without_repeated", "repeated_in_oneof"]

def AboutModifier (warning : Warning) : Prop := warning.kind ∈ modifierKinds

instance (warning : Warning) : Decidable (AboutModifier warning) := inferInstanceAs (Decidable (_ ∈ _))

theorem field_warnings_unshown (definition : Definition) (place : FieldPlace) (field : Field) :
    fieldWarnings definition place field = (unshown place field).map fun mark =>
      ⟨mark.kind, mark.message, definition.module, some definition.name, some field.name⟩ := by
  rw [fieldWarnings, dropped_unshown]
  rfl

theorem member_warnings_modifiers (definition : Definition) (members : List Member) :
    members.flatMap (memberWarnings definition) =
      (members.flatMap placedFields).flatMap fun placed => (unshown placed.1 placed.2).map fun mark =>
        ⟨mark.kind, mark.message, definition.module, some definition.name, some placed.2.name⟩ := by
  rw [List.flatMap_assoc]
  refine List.flatMap_congr fun member _ => ?_
  cases member with
  | field single => rw [memberWarnings, field_warnings_unshown, placedFields, List.flatMap_singleton]
  | oneof group =>
      rw [memberWarnings, placedFields, List.flatMap_map]
      exact List.flatMap_congr fun field _ => field_warnings_unshown definition .inOneof field

theorem dropped_about_modifier (mark : Dropped) : mark.kind ∈ modifierKinds := by
  cases mark <;> decide

theorem modifier_warnings_about (definition : Definition) :
    ∀ warning ∈ modifierWarnings definition, AboutModifier warning := by
  intro warning member
  obtain ⟨placed, _, told⟩ := List.mem_flatMap.mp member
  obtain ⟨mark, _, rfl⟩ := List.mem_map.mp told
  exact dropped_about_modifier mark

theorem fields_placed_none (definition : Definition) (noMessage : definition.isMessage = false) :
    fieldsPlaced definition = [] := by
  have memberless : definition.members = none := by simpa [Definition.isMessage] using noMessage
  simp [fieldsPlaced, Definition.memberList, memberless]

theorem modifier_warnings_none (definition : Definition) (nested : List Block) (form : formOf definition nested ≠ .message) :
    modifierWarnings definition = [] := by
  have noMessage : definition.isMessage ≠ true := fun message => form ((form_message definition nested).mpr (.inl message))
  rw [modifierWarnings, fields_placed_none definition (by simpa using noMessage), List.flatMap_nil]

mutual
theorem block_warnings_modifiers (block : Block) :
    block.warnings.filter AboutModifier = block.definitions.flatMap modifierWarnings := by
  cases block with
  | node definition shown nested =>
      have further := blocks_warnings_modifiers nested
      rw [Block.warnings, Block.definitions, List.flatMap_cons]
      cases form : formOf definition nested with
      | message =>
          simp only []
          rw [List.filter_append, further, member_warnings_modifiers]
          refine congrArg (· ++ _) (List.filter_eq_self.mpr fun warning member => ?_)
          exact decide_eq_true (modifier_warnings_about definition warning member)
      | enum =>
          have alone := nested_nil definition nested (by simp [form])
          subst alone
          rw [modifier_warnings_none definition [] (by simp [form])]
          rfl
      | unknown =>
          have alone := nested_nil definition nested (by simp [form])
          subst alone
          rw [modifier_warnings_none definition [] (by simp [form])]
          simp [AboutModifier, modifierKinds, warnAbout, Block.definitionsOf]
theorem blocks_warnings_modifiers (blocks : List Block) :
    (Block.warningsOf blocks).filter AboutModifier = (Block.definitionsOf blocks).flatMap modifierWarnings := by
  cases blocks with
  | nil => rfl
  | cons first rest =>
      rw [Block.warningsOf, Block.definitionsOf, List.filter_append, List.flatMap_append, block_warnings_modifiers first,
        blocks_warnings_modifiers rest]
end

theorem layout_warnings_unmodified (layout : Layout) : layout.warnings.filter AboutModifier = [] := by
  refine List.filter_eq_nil_iff.mpr fun warning member => ?_
  obtain ⟨placement, _, told⟩ := List.mem_filterMap.mp member
  obtain ⟨orphan, _, rfl⟩ := Option.map_eq_some_iff.mp told
  simp [AboutModifier, modifierKinds]

section
variable (catalog : Catalog) (rooted : Rooted catalog)
include rooted

theorem entry_definitions : Block.definitionsOf (Layout.ofCatalog catalog).blocks =
    (Block.entriesOf "" 0 (Layout.ofCatalog catalog).blocks).map fun entry => definitionOf catalog entry.name := by
  have known : ∀ definition ∈ Block.definitionsOf (Layout.ofCatalog catalog).blocks,
      definition = definitionOf catalog definition.name := by
    intro definition member
    have placed := (forest_definitions _ (layout_arranged catalog rooted)).mem_iff.mp member
    obtain ⟨placement, present, rfl⟩ := List.mem_map.mp placed
    exact placement_definition_of catalog placement present
  have names := blocks_entry_names "" 0 (Layout.ofCatalog catalog).blocks
  calc Block.definitionsOf (Layout.ofCatalog catalog).blocks
    _ = ((Block.definitionsOf (Layout.ofCatalog catalog).blocks).map (·.name)).map (definitionOf catalog) := by
        rw [List.map_map]
        exact (List.map_id _).symm.trans (List.map_congr_left known)
    _ = _ := by rw [← names, List.map_map]; rfl

end

section
variable (catalog : Catalog) (indent : String)

theorem member_lines_fields (message : String) (depth : Nat) (members : List Member) (place : FieldPlace) (field : Field)
    (member : (place, field) ∈ members.flatMap placedFields) :
    lineAt indent (depth + place.depth) (modifiedLine place field (Layout.ofCatalog catalog) message) ∈
      members.flatMap (memberLinesAt (Layout.ofCatalog catalog) indent message (depth + 1)) := by
  obtain ⟨outer, present, inside⟩ := List.mem_flatMap.mp member
  refine List.mem_flatMap.mpr ⟨outer, present, ?_⟩
  rw [← field_line_modified]
  cases outer with
  | field single =>
      obtain ⟨rfl, rfl⟩ := Prod.mk.inj (List.mem_singleton.mp inside)
      exact List.mem_singleton_self _
  | oneof group =>
      obtain ⟨own, among, same⟩ := List.mem_map.mp inside
      obtain ⟨rfl, rfl⟩ := Prod.mk.inj same
      exact List.mem_append_left _ (List.mem_cons_of_mem _ (List.mem_map_of_mem among))

mutual
theorem writes_fields (depth : Nat) (parent name : String) (lines : List String) (entries : List Entry)
    (written : Writes catalog indent depth parent name lines entries) (entry : Entry) (member : entry ∈ entries)
    (place : FieldPlace) (field : Field) (placed : (place, field) ∈ fieldsPlaced (definitionOf catalog entry.name)) :
    lineAt indent (entry.depth + place.depth) (modifiedLine place field (Layout.ofCatalog catalog) entry.name) ∈ lines := by
  match written with
  | .message _ _ _ inner more _ _ nested =>
      rcases List.mem_cons.mp member with rfl | deeper
      · have own := member_lines_fields catalog indent name depth _ place field placed
        exact List.mem_append_left _ (List.mem_cons_of_mem _ (List.mem_append_left _ own))
      · have below := writes_all_fields _ _ _ _ _ nested entry deeper place field placed
        exact List.mem_append_left _ (List.mem_cons_of_mem _ (List.mem_append_right _ below))
  | .enum _ _ _ values _ =>
      obtain rfl := List.mem_singleton.mp member
      have noMessage := (Bool.and_eq_true_iff.mp values).1
      exact absurd placed (by simp [fields_placed_none _ (by simpa using noMessage)])
  | .unknown _ _ _ shell _ =>
      obtain rfl := List.mem_singleton.mp member
      have noMessage := (Bool.and_eq_true_iff.mp shell).1
      exact absurd placed (by simp [fields_placed_none _ (by simpa using noMessage)])
theorem writes_all_fields (depth : Nat) (parent : String) (names : List String) (texts : List (List String))
    (entries : List Entry) (written : WritesAll catalog indent depth parent names texts entries) (entry : Entry)
    (member : entry ∈ entries) (place : FieldPlace) (field : Field)
    (placed : (place, field) ∈ fieldsPlaced (definitionOf catalog entry.name)) :
    lineAt indent (entry.depth + place.depth) (modifiedLine place field (Layout.ofCatalog catalog) entry.name) ∈
      texts.flatten := by
  match written with
  | .nil .. => exact absurd member List.not_mem_nil
  | .cons _ _ name lines own names texts more first rest =>
      rw [List.flatten_cons]
      rcases List.mem_append.mp member with here | later
      · exact List.mem_append_left _ (writes_fields _ _ _ _ _ first entry here place field placed)
      · exact List.mem_append_right _ (writes_all_fields _ _ _ _ _ rest entry later place field placed)
end

end

structure ModifiersTold (settings : Settings) (edition : Edition) (catalog : Catalog) (texts : List (List String))
    (entries : List Entry) : Prop where
  -- What a document prints of the modifiers of its fields and what it tells about those that it
  -- leaves out, with the lines of each block at the top and all names that are written.
  written : WritesAll catalog settings.indent 0 "" ((Layout.ofCatalog catalog).childrenOf "") texts entries
  text : (Document.ofCatalog settings edition catalog).text =
    Text.joinLines (header settings edition ((Layout.ofCatalog catalog).childrenOf "").length) ++ "\n" ++
      bodyText (texts.map Text.joinLines)
  once : (entries.map (·.name)).Nodup
  complete : ∀ name, name ∈ entries.map (·.name) ↔
    Defined catalog name ∨ name ∈ (Layout.ofCatalog catalog).synthesized
  form : ∀ message place field, fieldLine (Layout.ofCatalog catalog) message place field =
    modifiedLine place field (Layout.ofCatalog catalog) message
  lines : ∀ entry ∈ entries, ∀ placed ∈ fieldsPlaced (definitionOf catalog entry.name),
    lineAt settings.indent (entry.depth + placed.1.depth)
      (modifiedLine placed.1 placed.2 (Layout.ofCatalog catalog) entry.name) ∈ texts.flatten
  warnings : (Document.ofCatalog settings edition catalog).warnings.filter AboutModifier =
    entries.flatMap fun entry => modifierWarnings (definitionOf catalog entry.name)

theorem document_warnings_modifiers (settings : Settings) (edition : Edition) (catalog : Catalog)
    (rooted : Rooted catalog) : (Document.ofCatalog settings edition catalog).warnings.filter AboutModifier =
      (Block.entriesOf "" 0 (Layout.ofCatalog catalog).blocks).flatMap fun entry =>
        modifierWarnings (definitionOf catalog entry.name) := by
  have parts : (Document.ofCatalog settings edition catalog).warnings =
    (Layout.ofCatalog catalog).warnings ++ Block.warningsOf (Layout.ofCatalog catalog).blocks := rfl
  rw [parts, List.filter_append, layout_warnings_unmodified, List.nil_append, blocks_warnings_modifiers,
    entry_definitions catalog rooted, List.flatMap_map]

theorem modifiers_told (settings : Settings) (edition : Edition) (catalog : Catalog) (rooted : Rooted catalog) :
    ∃ texts entries, ModifiersTold settings edition catalog texts entries := by
  have written := top_written settings.indent catalog rooted
  have text := (document_written settings edition catalog rooted).2
  refine ⟨_, _, written, text, entry_names_distinct catalog rooted, entry_named_iff catalog rooted, ?_, ?_, ?_⟩
  · exact fun message place field => field_line_modified place field _ message
  · rintro entry member ⟨place, field⟩ placed
    exact writes_all_fields catalog settings.indent _ _ _ _ _ written entry member place field placed
  · exact document_warnings_modifiers settings edition catalog rooted

def flagged : Catalog where
  modules := [{
    name := "Flagged"
    statement := .leaf .empty
    definitions := [
      { name := "Flags$Inner", members := some [
          .field { name := "lone", id := some 1, type := some "bool", flags := ["packed", "odd"] }] },
      { name := "Flags", members := some [
          .field { name := "list", id := some 1, type := some "bool",
                   flags := ["packed", "required", "repeated", "packed"] },
          .field { name := "table", id := some 2, type := some "map", flags := ["repeated", "packed"],
                   mapTypes := some ("string", "Flags$Inner") },
          .oneof { name := "choice", members := [
            { name := "both", id := some 3, type := some "bool", flags := ["repeated", "packed", "repeated"] },
            { name := "pairs", id := some 4, type := some "map", flags := ["packed", "repeated"],
              mapTypes := some ("string", "bool") }] }] }] }]

theorem modifiers_told_flagged : Rooted flagged ∧ ∃ texts entries,
    ModifiersTold { indentSize := 4 } ⟨"2.3000", "2024-01-31"⟩ flagged texts entries := by
  have rooted : Rooted flagged := textual_rooted flagged (by decide) Schema.textual_empty
  exact ⟨rooted, modifiers_told { indentSize := 4 } ⟨"2.3000", "2024-01-31"⟩ flagged rooted⟩

example : (modifierWarnings (definitionOf flagged "Flags")).map (fun warning => (warning.kind, warning.field)) = [
    ("packed_on_map", some "table"), ("packed_in_oneof", some "both"), ("repeated_in_oneof", some "both"),
    ("packed_on_map", some "pairs")] := by decide

end SchemaRecovery.Proto
