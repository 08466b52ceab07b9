import SchemaRecovery.Proofs.Recovery.Alternatives
import SchemaRecovery.Proofs.Recovery.Convention

set_option autoImplicit false

namespace SchemaRecovery.Recovery

open Script (Node)
open Schema (Field Module)

def Aliased (schema : List DefinitionSource) (module : Module) : Prop :=
  ∀ localName ∈ schema.map (·.localName), ∃ definition, module.ofLocalName? localName = some definition ∧
    definition.name = nameOf schema localName

theorem or_leaves_stack_chain (first : Node) (rest stack : List Node) :
    orLeavesStack (chain first rest :: stack) = orLeavesStack (first :: rest ++ stack) := by
  induction rest generalizing first with
  | nil => rfl
  | cons next rest ih =>
      rw [chain, List.foldl_cons, ← chain, ih, List.cons_append, orLeavesStack, if_pos rfl]
      rfl

theorem or_leaves_flags (table : String) (flags : List String) (nodes : List Node)
    (written : List.Forall₂ (WritesToken table) flags nodes) : orLeavesStack nodes = nodes := by
  induction written with
  | nil => simp [orLeavesStack]
  | cons first _ ih => rw [or_leaves_stack_leaf _ _ (token_apart _ _ first), ih]

theorem flag_tokens (table : String) (flags : List String) (nodes : List Node)
    (written : List.Forall₂ (WritesToken table) flags nodes) :
    nodes.filterMap tableToken? = flags.map (TableToken.mk table) := by
  induction written with
  | nil => rfl
  | cons first _ ih => rw [List.filterMap_cons_some first, ih, List.map_cons]

section Tokens
variable (settings : Settings) (field : FieldSource) (type : Node) (typed : WritesType settings field type)
include typed

theorem type_leaf_tokens : (typeLeaves (some type)).filterMap tableToken? =
    ⟨settings.typesTable, field.type.token⟩ :: field.flags.map (TableToken.mk settings.flagsTable) := by
  obtain ⟨first, rest, rfl, token, flags⟩ := typed
  have leaves : orLeaves (chain first rest) = first :: rest := by
    rw [orLeaves, or_leaves_stack_chain, List.append_nil, or_leaves_stack_leaf _ _ (token_apart _ _ token),
      or_leaves_flags _ _ _ flags]
  simp only [typeLeaves, Option.toList_some, List.flatMap_cons, List.flatMap_nil, List.append_nil, leaves]
  rw [List.filterMap_cons_some token, flag_tokens _ _ _ flags]

theorem type_tokens (separate : SeparateNames settings) :
    tokensOf settings.typesTable (typeLeaves (some type)) = [Text.lower field.type.token] := by
  have other : settings.flagsTable ≠ settings.typesTable := Ne.symm separate.tables
  simp [tokensOf, type_leaf_tokens settings field type typed, List.filter_map, Function.comp_def, other]

theorem flag_names (separate : SeparateNames settings) :
    flagsOf settings (typeLeaves (some type)) = field.flags.map Text.lower := by
  rw [flagsOf, if_neg (Ne.symm separate.tables)]
  simp [tokensOf, type_leaf_tokens settings field type typed, List.filter_map, Function.comp_def,
    separate.tables]

end Tokens

section Reference
variable (settings : Settings) (modules : List Module) (module : Module) (schema : List DefinitionSource)
  (aliased : Aliased schema module)
include aliased

theorem resolve_local_name (localName : String) (defined : localName ∈ schema.map (·.localName)) (enumField : Bool) :
    resolveReference ⟨settings, modules, module⟩ (some (.identifier localName)) enumField =
      .found (nameOf schema localName) .localAlias := by
  obtain ⟨definition, found, named⟩ := aliased localName defined
  simp only [resolveReference, found, named]

theorem resolve_part (part : PartSource) (node : Node) (written : WritesPart settings part node)
    (defined : ∀ localName ∈ part.references, localName ∈ schema.map (·.localName)) :
    resolveMapType ⟨settings, modules, module⟩ (some node) = .ok (part.recovered schema) := by
  cases written with
  | scalar token node written =>
      have read : tableToken? node = some ⟨settings.typesTable, token⟩ := written
      simp only [resolveMapType, Option.bind_some, read, if_true, PartSource.recovered]
  | named localName =>
      have known := defined localName List.mem_cons_self
      simp only [resolveMapType, Option.bind_some, tableToken?, resolveMapType.ofReference,
        resolve_local_name settings modules module schema aliased localName known, PartSource.recovered]

theorem resolve_written_type (separate : SeparateNames settings) (field : FieldSource) (plain : field.type.Plain)
    (defined : ∀ localName ∈ field.type.references, localName ∈ schema.map (·.localName)) (type : Node)
    (typed : WritesType settings field type) (reference : Option Node)
    (referred : WritesReference settings field.type reference) :
    resolveType ⟨settings, modules, module⟩ ⟨field.tag, some type, reference⟩ =
      .ok (field.type.recovered schema, field.type.mapTypes schema) := by
  have tokens := type_tokens settings field type typed separate
  simp only [resolveType, tokens, List.getLast?_singleton]
  generalize field.type = kind at *
  cases referred with
  | scalar token reference =>
      simp only [TypeSource.Plain, List.mem_cons, List.not_mem_nil, or_false, not_or] at plain
      simp only [TypeSource.token, TypeSource.recovered, TypeSource.mapTypes]
      split <;> simp_all
  | message localName =>
      have word : Text.lower "MESSAGE" = "message" := by decide
      have known := defined localName List.mem_cons_self
      simp only [TypeSource.token, word, resolve_local_name settings modules module schema aliased localName known,
        TypeSource.recovered, TypeSource.mapTypes]
  | enum localName =>
      have word : Text.lower "ENUM" = "enum" := by decide
      have known := defined localName List.mem_cons_self
      simp only [TypeSource.token, word, resolve_local_name settings modules module schema aliased localName known,
        TypeSource.recovered, TypeSource.mapTypes]
  | map first second key value writtenKey writtenValue =>
      have word : Text.lower "MAP" = "map" := by decide
      have left := resolve_part settings modules module schema aliased first key writtenKey
        fun localName member => defined localName (List.mem_append_left _ member)
      have right := resolve_part settings modules module schema aliased second value writtenValue
        fun localName member => defined localName (List.mem_append_right _ member)
      simp only [TypeSource.token, word, resolveMap, left, right, bind, Except.bind, TypeSource.recovered,
        TypeSource.mapTypes]

theorem resolve_written_entry (separate : SeparateNames settings) (field : FieldSource) (plain : field.type.Plain)
    (defined : ∀ localName ∈ field.type.references, localName ∈ schema.map (·.localName)) (entry : Node)
    (written : WritesEntry settings field entry) (definition : String) :
    resolveEntry ⟨settings, modules, module⟩ definition ⟨field.name, entry⟩ = (some (field.recovered schema), []) := by
  have resolved (type : Node) (typed : WritesType settings field type) (reference : Option Node)
      (referred : WritesReference settings field.type reference) :
      resolveField ⟨settings, modules, module⟩ field.name ⟨field.tag, some type, reference⟩ = field.recovered schema := by
    simp only [resolveField, flag_names settings field type typed separate,
      resolve_written_type settings modules module schema aliased separate field plain defined type typed reference
        referred, FieldSource.recovered]
  cases written with
  | short tag type tagged typed referred =>
      simp only [resolveEntry, fieldEntry, entryOf, Option.bind_some, tagged, resolved type typed none referred,
        fieldNotices, FieldSource.recovered, Option.toList_none, List.map_nil]
  | long tag type reference tagged typed referred =>
      simp only [resolveEntry, fieldEntry, entryOf, Option.bind_some, tagged, resolved type typed reference referred,
        fieldNotices, FieldSource.recovered, Option.toList_none, List.map_nil]

end Reference

end SchemaRecovery.Recovery
