import Mathlib.Logic.Function.Basic
import SchemaRecovery.Proofs.Layout.Agreement
import SchemaRecovery.Proto.Document
import SchemaRecovery.Schema.Dump

set_option autoImplicit false

namespace SchemaRecovery.Text.Json

theorem of_option_injective : Function.Injective ofOption := by
  intro a b same
  cases a <;> cases b <;> simp_all [ofOption]

theorem of_int_injective : Function.Injective ofInt? := by
  intro a b same
  cases a <;> cases b <;> simp_all [ofInt?]

theorem texts_injective : Function.Injective texts := by
  intro a b same
  exact List.map_injective_iff.mpr (fun _ _ => Json.text.inj) (Json.list.inj same)

end SchemaRecovery.Text.Json

namespace SchemaRecovery.Schema

open Text (Json)
open Text.Json (of_option_injective of_int_injective texts_injective)

theorem unresolved_data_injective : Function.Injective Unresolved.data := by
  intro a b same
  simp only [Unresolved.data, Json.record.injEq, List.cons.injEq, Prod.mk.injEq, Json.text.injEq, and_true, true_and,
    of_option_injective.eq_iff] at same
  cases a
  cases b
  simp_all

theorem field_data_injective : Function.Injective Field.data := by
  rintro ⟨name, id, type, flags, mapTypes, unresolved⟩ ⟨name', id', type', flags', mapTypes', unresolved'⟩ same
  simp only [Field.data, Json.record.injEq, List.cons_append, List.cons.injEq, Prod.mk.injEq, Json.text.injEq, true_and,
    of_option_injective.eq_iff, of_int_injective.eq_iff, texts_injective.eq_iff, List.nil_append] at same
  obtain ⟨rfl, rfl, rfl, rfl, optional⟩ := same
  cases mapTypes <;> cases mapTypes' <;> cases unresolved <;> cases unresolved' <;>
    simp_all [unresolved_data_injective.eq_iff, texts_injective.eq_iff, Prod.ext_iff]

theorem member_data_injective : Function.Injective Member.data := by
  intro a b same
  cases a with
  | field single =>
      cases b with
      | field other => exact congrArg Member.field (field_data_injective same)
      | oneof group => simp [Member.data, Field.data] at same
  | oneof group =>
      cases b with
      | field other => simp [Member.data, Field.data] at same
      | oneof other =>
          obtain ⟨name, members⟩ := group
          obtain ⟨name', members'⟩ := other
          simp only [Member.data, Json.record.injEq, List.cons.injEq, Prod.mk.injEq, Json.text.injEq, Json.list.injEq,
            true_and, and_true, (List.map_injective_iff.mpr field_data_injective).eq_iff] at same
          rw [same.1, same.2]

theorem value_data_injective : Function.Injective EnumValue.data := by
  rintro ⟨name, id⟩ ⟨name', id'⟩ same
  simpa [EnumValue.data] using same

def Definition.stripped (definition : Definition) : Definition :=
  { definition with
    enumValues := if definition.hasValues then some definition.values else none
    module := none }

section
variable (definition : Definition)

@[simp] theorem stripped_name : definition.stripped.name = definition.name := rfl

@[simp] theorem stripped_member_list : definition.stripped.memberList = definition.memberList := rfl

@[simp] theorem stripped_is_message : definition.stripped.isMessage = definition.isMessage := rfl

@[simp] theorem stripped_values : definition.stripped.values = definition.values := by
  by_cases some : definition.hasValues
  · simp [Definition.stripped, Definition.values, some]
  · have none : definition.values = [] := by simpa [Definition.hasValues] using some
    rw [none]
    simp [Definition.stripped, Definition.values, some]

@[simp] theorem stripped_is_enum : definition.stripped.isEnum = definition.isEnum := by
  simp only [Definition.isEnum, Definition.hasValues, stripped_values, stripped_is_message]

@[simp] theorem stripped_is_shell : definition.stripped.isShell = definition.isShell := by
  simp only [Definition.isShell, stripped_is_enum, stripped_is_message]

end

theorem stripped_of_data : Definition.stripped.FactorsThrough Definition.data := by
  intro a b same
  have members : Function.Injective (List.map Member.data) := List.map_injective_iff.mpr member_data_injective
  have values : Function.Injective (List.map EnumValue.data) := List.map_injective_iff.mpr value_data_injective
  simp only [Definition.data, Json.record.injEq, List.cons_append, List.cons.injEq, Prod.mk.injEq, Json.text.injEq,
    true_and, of_option_injective.eq_iff, List.nil_append] at same
  obtain ⟨name, path, localName, optional⟩ := same
  have kept : a.members = b.members ∧ (if a.hasValues then some a.values else none) =
      if b.hasValues then some b.values else none := by
    cases left : a.members <;> cases right : b.members <;> by_cases a.hasValues <;> by_cases b.hasValues <;>
      simp_all [members.eq_iff, values.eq_iff]
  simp only [Definition.stripped, name, path, localName, kept]

theorem map_of_view {α β γ : Type} (view : α → β) (part : α → γ) (determined : part.FactorsThrough view) (a b : List α)
    (same : a.map view = b.map view) : a.map part = b.map part := by
  induction a generalizing b with
  | nil => rw [List.map_eq_nil_iff.mp same.symm]
  | cons first rest ih =>
      obtain ⟨other, later, rfl, head, tail⟩ := List.map_eq_cons_iff.mp same.symm
      rw [List.map_cons, List.map_cons, determined head, ih later tail.symm]

theorem stripped_definitions_of_data (a b : Catalog) (same : a.data = b.data) :
    a.definitions.map Definition.stripped = b.definitions.map Definition.stripped := by
  have modules : a.modules.map Module.data = b.modules.map Module.data := by
    simp only [Catalog.data, Json.record.injEq, List.cons.injEq, Prod.mk.injEq, Json.list.injEq] at same
    exact same.1.2
  have definitions : (fun module : Module => module.definitions.map Definition.stripped).FactorsThrough Module.data := by
    intro module other same
    simp only [Module.data, Json.record.injEq, List.cons.injEq, Prod.mk.injEq, Json.list.injEq] at same
    exact map_of_view _ _ stripped_of_data _ _ same.2.2.1.2
  simp only [Catalog.definitions, List.map_flatMap]
  rw [List.flatMap_def, List.flatMap_def, map_of_view _ _ definitions _ _ modules]

theorem put_definition_stripped (definition : Definition) (found : List Definition) :
    putDefinition definition.stripped (found.map Definition.stripped) =
      (putDefinition definition found).map Definition.stripped := by
  induction found with
  | nil => rfl
  | cons first rest ih =>
      simp only [List.map_cons, putDefinition, stripped_name, ih]
      split <;> rfl

theorem put_all_stripped (fresh found : List Definition) :
    (fresh.map Definition.stripped).foldl (fun found definition => putDefinition definition found)
        (found.map Definition.stripped) =
      (fresh.foldl (fun found definition => putDefinition definition found) found).map Definition.stripped := by
  induction fresh generalizing found with
  | nil => rfl
  | cons first rest ih => rw [List.map_cons, List.foldl_cons, List.foldl_cons, put_definition_stripped, ih]

theorem stripped_by_name_of_data (a b : Catalog) (same : a.data = b.data) :
    a.byName.map Definition.stripped = b.byName.map Definition.stripped := by
  have stripped (catalog : Catalog) : catalog.byName.map Definition.stripped =
      (catalog.definitions.map Definition.stripped).foldl (fun found definition => putDefinition definition found) [] :=
    (put_all_stripped catalog.definitions []).symm
  rw [stripped, stripped, stripped_definitions_of_data a b same]

end SchemaRecovery.Schema

namespace SchemaRecovery.Proto

open Schema (Catalog Definition Member Nesting Textual)

theorem textual_around (nesting : Nesting) (textual : Textual nesting) : enclosing nesting = enclosing {} := by
  funext name
  rw [Schema.textual_enclosing _ textual, Schema.textual_enclosing _ Schema.textual_empty]

theorem textual_outward (nesting : Nesting) (textual : Textual nesting) (name : String) :
    outward nesting.paths name = outward [] name := by
  have out : ∃ way, WayOut nesting name way := by
    by_cases named : name = ""
    · exact ⟨[name], .top name (by rw [Schema.textual_enclosing _ textual, named]; rfl)⟩
    · exact way_out_exists nesting name named (Schema.textual_reaches_top nesting textual name)
  obtain ⟨way, out⟩ := out
  rw [outward_way_out nesting name way out _ fun _ _ => rfl]
  exact (outward_way_out {} name way (way_out_agree _ _ (textual_around _ textual) name way out) []
    fun _ _ => rfl).symm

def layoutOf (definitions : List Definition) : Layout :=
  let chains := (Schema.sortedNames (definitions.map (·.name))).map (outward [])
  { placements := (chains.flatMap List.reverse).eraseDups.map (placeName definitions {})
    synthesized := chains.flatten.eraseDups.filter fun name => (findNamed definitions name).isNone }

theorem textual_layout (catalog : Catalog) (textual : Textual catalog.nesting) :
    Layout.ofCatalog catalog = layoutOf catalog.byName := by
  have placed : placeName catalog.byName catalog.nesting = placeName catalog.byName {} := by
    funext name
    simp only [placeName, textual_around _ textual]
  have ways : outward catalog.nesting.paths = outward [] := funext (textual_outward catalog.nesting textual)
  simp only [Layout.ofCatalog, layoutOf, placed, ways]

def Placement.stripped (placement : Placement) : Placement :=
  { placement with definition := placement.definition.stripped }

def Layout.stripped (layout : Layout) : Layout :=
  { layout with placements := layout.placements.map Placement.stripped }

theorem find_named_stripped (definitions : List Definition) (name : String) :
    findNamed (definitions.map Definition.stripped) name = (findNamed definitions name).map Definition.stripped := by
  rw [findNamed, List.find?_map]
  rfl

theorem place_name_stripped (definitions : List Definition) (nesting : Nesting) (name : String) :
    placeName (definitions.map Definition.stripped) nesting name = (placeName definitions nesting name).stripped := by
  have definition : ((findNamed definitions name).map Definition.stripped).getD (emptyMessage name) =
      ((findNamed definitions name).getD (emptyMessage name)).stripped := by
    cases findNamed definitions name <;> rfl
  simp only [placeName, find_named_stripped, definition]
  split
  · rfl
  · cases findNamed definitions (enclosing nesting name) with
    | none => rfl
    | some outer =>
        simp only [Option.map_some, Schema.stripped_is_enum, Schema.stripped_is_shell]
        split
        · rfl
        · split <;> rfl

theorem layout_stripped (definitions : List Definition) :
    layoutOf (definitions.map Definition.stripped) = (layoutOf definitions).stripped := by
  have placed : placeName (definitions.map Definition.stripped) {} = Placement.stripped ∘ placeName definitions {} :=
    funext (place_name_stripped definitions {})
  have names : (definitions.map Definition.stripped).map (·.name) = definitions.map (·.name) := by
    simp [Function.comp_def]
  simp only [layoutOf, Layout.stripped, names, placed, find_named_stripped, Option.isNone_map, List.map_map]

section Reference
variable (layout : Layout)

theorem parent_stripped (name : String) : layout.stripped.parent? name = layout.parent? name := by
  rw [Layout.parent?, Layout.stripped, List.find?_map, Option.map_map]
  rfl

theorem printed_path_stripped (name : String) : layout.stripped.printedPath name = layout.printedPath name := by
  have general (placements : List Placement) (name : String) :
      Layout.printedPathIn (placements.map Placement.stripped) name = Layout.printedPathIn placements name := by
    induction placements generalizing name with
    | nil => rfl
    | cons first rest ih =>
        have same : first.stripped.name = first.name := rfl
        have parent : first.stripped.parent = first.parent := rfl
        simp only [List.map_cons, Layout.printedPathIn, same, parent, ih]
  rw [Layout.printedPath, Layout.stripped, ← List.map_reverse, general]
  rfl

theorem reference_stripped : layout.stripped.reference = layout.reference := by
  funext type message
  simp only [Layout.reference, parent_stripped, printed_path_stripped]

theorem member_lines_stripped (indent message : String) :
    memberLines layout.stripped indent message = memberLines layout indent message := by
  have line (place : FieldPlace) : fieldLine layout.stripped message place = fieldLine layout message place := by
    funext field
    simp only [fieldLine, printedTypes, reference_stripped]
  funext member
  cases member <;> simp only [memberLines, line]

end Reference

mutual
def Block.stripped : Block → Block
  | .node definition shown nested => .node definition.stripped shown (Block.strippedAll nested)

def Block.strippedAll : List Block → List Block
  | [] => []
  | block :: blocks => Block.stripped block :: Block.strippedAll blocks
end

theorem insert_block_stripped (block : Block) (blocks : List Block) :
    Block.insert block.stripped (Block.strippedAll blocks) = Block.strippedAll (Block.insert block blocks) := by
  have named (block : Block) : block.stripped.name = block.name := by
    cases block
    rfl
  induction blocks with
  | nil => rfl
  | cons first rest ih =>
      simp only [Block.strippedAll, Block.insert, named, ih]
      split <;> rfl

theorem forest_stripped (placements : List Placement) (parent : String) :
    forest (placements.map Placement.stripped) parent = Block.strippedAll (forest placements parent) := by
  induction placements generalizing parent with
  | nil => rfl
  | cons first rest ih =>
      have same : first.stripped.name = first.name := rfl
      have inside : first.stripped.parent = first.parent := rfl
      simp only [List.map_cons, forest, same, inside, ih]
      split
      · rw [← insert_block_stripped]
        rfl
      · rfl

mutual
theorem block_lines_stripped (layout : Layout) (indent : String) (block : Block) :
    block.stripped.lines layout.stripped indent = block.lines layout indent := by
  obtain ⟨definition, shown, nested⟩ := block
  have form : formOf definition.stripped (Block.strippedAll nested) = formOf definition nested := by
    cases nested <;> simp [formOf, Block.strippedAll]
  simp only [Block.stripped, Block.lines, form, member_lines_stripped, blocks_lines_stripped layout indent nested,
    Schema.stripped_name, Schema.stripped_member_list, Schema.stripped_values]

theorem blocks_lines_stripped (layout : Layout) (indent : String) (blocks : List Block) :
    Block.linesOf layout.stripped indent (Block.strippedAll blocks) = Block.linesOf layout indent blocks := by
  cases blocks with
  | nil => rfl
  | cons block rest =>
      simp only [Block.strippedAll, Block.linesOf, block_lines_stripped layout indent block,
        blocks_lines_stripped layout indent rest]
end

theorem document_stripped (settings : Settings) (edition : Edition) (layout : Layout) :
    (Document.ofLayout settings edition layout.stripped).text = (Document.ofLayout settings edition layout).text ∧
      (Document.ofLayout settings edition layout.stripped).entities =
        (Document.ofLayout settings edition layout).entities := by
  have blocks : layout.stripped.blocks = layout.blocks.map Block.stripped := by
    have each (blocks : List Block) : Block.strippedAll blocks = blocks.map Block.stripped := by
      induction blocks with
      | nil => rfl
      | cons block rest ih => rw [Block.strippedAll, ih, List.map_cons]
    rw [Layout.blocks, Layout.stripped, forest_stripped, each]
    rfl
  simp only [Document.ofLayout, blocks, List.length_map, List.map_map, Function.comp_def, block_lines_stripped, and_self]

/-- What is in a document can be told from the data of its catalog. -/
theorem data_determine_document (a b : Catalog) (left : Textual a.nesting) (right : Textual b.nesting)
    (same : a.data = b.data) (settings : Settings) (edition : Edition) :
    (Document.ofCatalog settings edition a).text = (Document.ofCatalog settings edition b).text ∧
      (Document.ofCatalog settings edition a).entities = (Document.ofCatalog settings edition b).entities := by
  have layouts : (Layout.ofCatalog a).stripped = (Layout.ofCatalog b).stripped := by
    rw [textual_layout a left, textual_layout b right, ← layout_stripped, ← layout_stripped,
      Schema.stripped_by_name_of_data a b same]
  obtain ⟨text, entities⟩ := document_stripped settings edition (Layout.ofCatalog a)
  obtain ⟨text', entities'⟩ := document_stripped settings edition (Layout.ofCatalog b)
  rw [layouts] at text entities
  exact ⟨text.symm.trans text', entities.symm.trans entities'⟩

def sourcedCatalog (module : Option String) (values : Option (List Schema.EnumValue)) (registered : List String) :
    Catalog where
  modules := [{
    name := "Pets"
    statement := .leaf .empty
    definitions := [
      { name := "Pet", enumValues := values, module := module },
      { name := "Pet$Cat"
        nestingPath := "Pet"
        members := some [.oneof ⟨"kind", [{ name := "age", id := some 1, type := some "int32" }]⟩]
        module := module }] }]
  nesting := registered.foldl (fun nesting key => nesting.register key (Schema.Name.nestingPath key)) {}

theorem data_determine_document_sourced :
    Textual (sourcedCatalog (some "Pets") (some []) ["Pet", "Pet$Cat"]).nesting ∧
      Textual (sourcedCatalog none none ["Pet$Cat"]).nesting ∧
      (sourcedCatalog (some "Pets") (some []) ["Pet", "Pet$Cat"]).data =
        (sourcedCatalog none none ["Pet$Cat"]).data ∧
      (sourcedCatalog (some "Pets") (some []) ["Pet", "Pet$Cat"]).definitions ≠
        (sourcedCatalog none none ["Pet$Cat"]).definitions ∧
      (Document.ofCatalog {} ⟨"latest", ""⟩ (sourcedCatalog (some "Pets") (some []) ["Pet", "Pet$Cat"])).text =
        (Document.ofCatalog {} ⟨"latest", ""⟩ (sourcedCatalog none none ["Pet$Cat"])).text := by
  have left := Recovery.textual_register_all {} ["Pet", "Pet$Cat"] Schema.textual_empty
  have right := Recovery.textual_register_all {} ["Pet$Cat"] Schema.textual_empty
  have same : (sourcedCatalog (some "Pets") (some []) ["Pet", "Pet$Cat"]).data =
      (sourcedCatalog none none ["Pet$Cat"]).data := by
    rfl
  exact ⟨left, right, same, by decide, (data_determine_document _ _ left right same {} ⟨"latest", ""⟩).1⟩

end SchemaRecovery.Proto
