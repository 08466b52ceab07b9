import SchemaRecovery.Proofs.Layout.Once

set_option autoImplicit false

namespace SchemaRecovery.Proto

open Schema (Catalog Definition Member)

def lineAt (indent : String) (depth : Nat) (text : String) : String :=
  String.join (List.replicate depth indent) ++ text

def memberLinesAt (layout : Layout) (indent message : String) (depth : Nat) : Member → List String
  | .field single => [lineAt indent depth (fieldLine layout message .alone single)]
  | .oneof group =>
    lineAt indent depth ("oneof " ++ group.name ++ " \x7b") ::
      group.members.map (fun field => lineAt indent (depth + 1) (fieldLine layout message .inOneof field)) ++
        [lineAt indent depth "\x7d"]

def definitionOf (catalog : Catalog) (name : String) : Definition :=
  (findNamed catalog.byName name).getD (emptyMessage name)

structure Entry where
  name : String
  parent : String
  depth : Nat
deriving Repr, DecidableEq

section
variable (catalog : Catalog) (indent : String)

mutual
inductive Writes : Nat → String → String → List String → List Entry → Prop where
  -- The lines of a name that stands in a parent, and everything that is written on them.
  | message (depth : Nat) (parent name : String) (inner : List (List String)) (entries : List Entry)
      (noEnum : (definitionOf catalog name).isEnum = false)
      (holds : (definitionOf catalog name).isMessage = true ∨ (Layout.ofCatalog catalog).childrenOf name ≠ [])
      (nested : WritesAll (depth + 1) name ((Layout.ofCatalog catalog).childrenOf name) inner entries) :
      Writes depth parent name
        (lineAt indent depth ("message " ++ Schema.Name.shownInside name parent ++ " \x7b") ::
          ((definitionOf catalog name).memberList.flatMap
              (memberLinesAt (Layout.ofCatalog catalog) indent name (depth + 1)) ++ inner.flatten) ++
            [lineAt indent depth "\x7d"])
        (⟨name, parent, depth⟩ :: entries)
  | enum (depth : Nat) (parent name : String) (values : (definitionOf catalog name).isEnum = true)
      (alone : (Layout.ofCatalog catalog).childrenOf name = []) :
      Writes depth parent name
        (lineAt indent depth ("enum " ++ Schema.Name.shownInside name parent ++ " \x7b") ::
          (definitionOf catalog name).values.map (fun value => lineAt indent (depth + 1) (valueLine value)) ++
            [lineAt indent depth "\x7d"])
        [⟨name, parent, depth⟩]
  | unknown (depth : Nat) (parent name : String) (shell : (definitionOf catalog name).isShell = true)
      (alone : (Layout.ofCatalog catalog).childrenOf name = []) :
      Writes depth parent name [lineAt indent depth ("// Unknown entity " ++ name)] [⟨name, parent, depth⟩]
inductive WritesAll : Nat → String → List String → List (List String) → List Entry → Prop where
  | nil (depth : Nat) (parent : String) : WritesAll depth parent [] [] []
  | cons (depth : Nat) (parent name : String) (lines : List String) (entries : List Entry) (names : List String)
      (texts : List (List String)) (more : List Entry) (first : Writes depth parent name lines entries)
      (rest : WritesAll depth parent names texts more) :
      WritesAll depth parent (name :: names) (lines :: texts) (entries ++ more)
end

end

inductive DepthOf (layout : Layout) : String → Nat → Prop where
  | top (name : String) (placed : layout.parent? name = some "") : DepthOf layout name 0
  | inside (name parent : String) (depth : Nat) (placed : layout.parent? name = some parent)
      (outer : DepthOf layout parent depth) : DepthOf layout name (depth + 1)

theorem line_at_succ (indent : String) (depth : Nat) (text : String) :
    lineAt indent (depth + 1) text = lineAt indent depth (indent ++ text) := by
  simp [lineAt, List.replicate_succ', String.append_assoc]

theorem indent_lines_at (indent : String) (depth : Nat) (lines : List String) :
    (indentLines indent lines).map (lineAt indent depth) = lines.map (lineAt indent (depth + 1)) := by
  rw [indentLines, List.map_map]
  exact List.map_congr_left fun line _ => (line_at_succ indent depth line).symm

theorem member_lines_at (layout : Layout) (indent message : String) (depth : Nat) (member : Member) :
    (memberLines layout indent message member).map (lineAt indent depth) =
      memberLinesAt layout indent message depth member := by
  cases member with
  | field single => rfl
  | oneof group =>
      rw [memberLines, memberLinesAt, List.map_append, List.map_cons, indent_lines_at, List.map_map]
      rfl

theorem lines_of_eq (layout : Layout) (indent : String) (blocks : List Block) :
    Block.linesOf layout indent blocks = (blocks.map (Block.lines layout indent)).flatten := by
  induction blocks with
  | nil => rfl
  | cons first rest ih => rw [Block.linesOf, ih, List.map_cons, List.flatten_cons]

mutual
def Block.entries (parent : String) (depth : Nat) : Block → List Entry
  | .node definition _ nested => ⟨definition.name, parent, depth⟩ :: Block.entriesOf definition.name (depth + 1) nested
def Block.entriesOf (parent : String) (depth : Nat) : List Block → List Entry
  | [] => []
  | block :: rest => block.entries parent depth ++ Block.entriesOf parent depth rest
end

mutual
theorem block_entry_names (parent : String) (depth : Nat) (block : Block) :
    (block.entries parent depth).map (·.name) = block.definitions.map (·.name) := by
  cases block with
  | node definition shown nested =>
      rw [Block.entries, Block.definitions, List.map_cons, List.map_cons,
        blocks_entry_names definition.name (depth + 1) nested]
theorem blocks_entry_names (parent : String) (depth : Nat) (blocks : List Block) :
    (Block.entriesOf parent depth blocks).map (·.name) = (Block.definitionsOf blocks).map (·.name) := by
  cases blocks with
  | nil => rfl
  | cons first rest =>
      rw [Block.entriesOf, Block.definitionsOf, List.map_append, List.map_append, block_entry_names parent depth first,
        blocks_entry_names parent depth rest]
end

section
variable (catalog : Catalog)

theorem placement_definition_of (placement : Placement) (member : placement ∈ (Layout.ofCatalog catalog).placements) :
    placement.definition = definitionOf catalog placement.name := by
  rw [placements_eq] at member
  obtain ⟨name, _, rfl⟩ := List.mem_map.mp member
  rw [place_name_definition, place_name_name]
  rfl

variable (rooted : Rooted catalog)
include rooted

theorem enum_alone (name : String) (values : (definitionOf catalog name).isEnum = true) :
    (Layout.ofCatalog catalog).childrenOf name = [] := by
  apply List.eq_nil_iff_forall_not_mem.mpr
  intro child member
  have entry := (mem_children_iff catalog child name).mp member
  rcases parent_placed catalog rooted child name entry with top | ⟨outer, present, rfl, noEnum⟩
  · rw [top, definitionOf] at values
    cases found : findNamed catalog.byName "" with
    | none => simp [found, emptyMessage, Definition.isEnum, Definition.isMessage] at values
    | some definition =>
        obtain ⟨known, named⟩ := find_named_some _ _ _ found
        exact rooted.named definition (Schema.mem_by_name catalog definition known) named
  · rw [placement_definition_of catalog outer present, values] at noEnum
    exact Bool.noConfusion noEnum

theorem forest_children (name : String) :
    (forest (Layout.ofCatalog catalog).placements name).map Block.name = (Layout.ofCatalog catalog).childrenOf name :=
  forest_names _ (layout_arranged catalog rooted).distinct name

theorem forest_nil_iff (name : String) :
    forest (Layout.ofCatalog catalog).placements name = [] ↔ (Layout.ofCatalog catalog).childrenOf name = [] := by
  rw [← forest_children catalog rooted, List.map_eq_nil_iff]

theorem writes_form (indent : String) (depth : Nat) (placement : Placement)
    (member : placement ∈ (Layout.ofCatalog catalog).placements)
    (nested : WritesAll catalog indent (depth + 1) placement.name ((Layout.ofCatalog catalog).childrenOf placement.name)
      ((forest (Layout.ofCatalog catalog).placements placement.name).map fun block =>
        (block.lines (Layout.ofCatalog catalog) indent).map (lineAt indent (depth + 1)))
      (Block.entriesOf placement.name (depth + 1) (forest (Layout.ofCatalog catalog).placements placement.name))) :
    Writes catalog indent depth placement.parent placement.name
      (((blockOf (Layout.ofCatalog catalog).placements placement).lines (Layout.ofCatalog catalog) indent).map
        (lineAt indent depth))
      ((blockOf (Layout.ofCatalog catalog).placements placement).entries placement.parent depth) := by
  have definition := placement_definition_of catalog placement member
  have named : (definitionOf catalog placement.name).name = placement.name := by rw [← definition]; rfl
  have empty := forest_nil_iff catalog rooted placement.name
  rw [blockOf, Block.lines, Block.entries, definition, named]
  by_cases values : (definitionOf catalog placement.name).isEnum = true
  · have alone := enum_alone catalog rooted placement.name values
    rw [empty.mpr alone, form_enum _ values, Block.entriesOf]
    simp only [List.map_append, List.map_cons, List.map_nil, indent_lines_at, List.map_map]
    exact .enum depth placement.parent placement.name values alone
  · by_cases holds : (definitionOf catalog placement.name).isMessage = true ∨
        (Layout.ofCatalog catalog).childrenOf placement.name ≠ []
    · rw [(form_message _ _).mpr (holds.imp id fun some => mt empty.mp some)]
      simp only [lines_of_eq, List.map_append, List.map_cons, List.map_nil, indent_lines_at, List.map_flatMap,
        member_lines_at, List.map_flatten, List.map_map]
      exact .message depth placement.parent placement.name _ _ (Bool.eq_false_iff.mpr values) holds nested
    · rw [not_or, not_not] at holds
      rw [empty.mpr holds.2, Block.entriesOf]
      have noMessage := Bool.eq_false_iff.mpr holds.1
      have noEnum := Bool.eq_false_iff.mpr values
      have form : formOf (definitionOf catalog placement.name) [] = .unknown := by simp [formOf, noMessage, noEnum]
      rw [form]
      exact .unknown depth placement.parent placement.name (by simp [Definition.isShell, noMessage, noEnum]) holds.2

end

mutual
theorem writes_block (catalog : Catalog) (rooted : Rooted catalog) (indent : String) (depth : Nat) (block : Block)
    (placement : Placement) (member : placement ∈ (Layout.ofCatalog catalog).placements)
    (here : block = blockOf (Layout.ofCatalog catalog).placements placement) :
    Writes catalog indent depth placement.parent placement.name
      ((block.lines (Layout.ofCatalog catalog) indent).map (lineAt indent depth))
      (block.entries placement.parent depth) := by
  cases block with
  | node definition shown nested =>
      have inner : nested = forest (Layout.ofCatalog catalog).placements placement.name := congrArg Block.nested here
      have further := writes_blocks catalog rooted indent (depth + 1) placement.name nested fun block inside =>
        (mem_forest _ (layout_arranged catalog rooted) placement.name block).mp (inner ▸ inside)
      rw [inner, forest_children catalog rooted] at further
      rw [here]
      exact writes_form catalog rooted indent depth placement member further
theorem writes_blocks (catalog : Catalog) (rooted : Rooted catalog) (indent : String) (depth : Nat) (parent : String)
    (blocks : List Block)
    (inside : ∀ block ∈ blocks, ∃ placement ∈ (Layout.ofCatalog catalog).placements, placement.parent = parent ∧
      block = blockOf (Layout.ofCatalog catalog).placements placement) :
    WritesAll catalog indent depth parent (blocks.map Block.name)
      (blocks.map fun block => (block.lines (Layout.ofCatalog catalog) indent).map (lineAt indent depth))
      (Block.entriesOf parent depth blocks) := by
  cases blocks with
  | nil => exact .nil depth parent
  | cons first rest =>
      obtain ⟨placement, member, rfl, same⟩ := inside first List.mem_cons_self
      have named : first.name = placement.name := by rw [same, block_of_name]
      have own := writes_block catalog rooted indent depth first placement member same
      have others := writes_blocks catalog rooted indent depth placement.parent rest fun block present =>
        inside block (List.mem_cons_of_mem _ present)
      rw [List.map_cons, List.map_cons, Block.entriesOf, named]
      exact .cons depth placement.parent placement.name _ _ _ _ _ own others
end

mutual
theorem writes_entries (catalog : Catalog) (indent : String) (depth : Nat) (parent name : String) (lines : List String)
    (entries : List Entry) (written : Writes catalog indent depth parent name lines entries)
    (placed : (Layout.ofCatalog catalog).parent? name = some parent)
    (deep : DepthOf (Layout.ofCatalog catalog) name depth) :
    ∀ entry ∈ entries, (Layout.ofCatalog catalog).parent? entry.name = some entry.parent ∧
      DepthOf (Layout.ofCatalog catalog) entry.name entry.depth := by
  match written with
  | .message _ _ _ inner more _ _ nested =>
      intro entry member
      rcases List.mem_cons.mp member with rfl | deeper
      · exact ⟨placed, deep⟩
      · refine writes_all_entries catalog indent _ _ _ _ _ nested (fun child inside => ?_) entry deeper
        have within := (mem_children_iff catalog child name).mp inside
        exact ⟨within, .inside child name depth within deep⟩
  | .enum .. =>
      intro entry member
      exact List.mem_singleton.mp member ▸ ⟨placed, deep⟩
  | .unknown .. =>
      intro entry member
      exact List.mem_singleton.mp member ▸ ⟨placed, deep⟩
theorem writes_all_entries (catalog : Catalog) (indent : String) (depth : Nat) (parent : String) (names : List String)
    (texts : List (List String)) (entries : List Entry)
    (written : WritesAll catalog indent depth parent names texts entries)
    (each : ∀ name ∈ names, (Layout.ofCatalog catalog).parent? name = some parent ∧
      DepthOf (Layout.ofCatalog catalog) name depth) :
    ∀ entry ∈ entries, (Layout.ofCatalog catalog).parent? entry.name = some entry.parent ∧
      DepthOf (Layout.ofCatalog catalog) entry.name entry.depth := by
  match written with
  | .nil .. => exact fun _ absent => absurd absent List.not_mem_nil
  | .cons _ _ name lines own names texts more first rest =>
      obtain ⟨placed, deep⟩ := each name List.mem_cons_self
      intro entry member
      rcases List.mem_append.mp member with here | later
      · exact writes_entries catalog indent depth parent name lines own first placed deep entry here
      · exact writes_all_entries catalog indent depth parent names texts more rest
          (fun other present => each other (List.mem_cons_of_mem _ present)) entry later
end

structure Outline (settings : Settings) (edition : Edition) (catalog : Catalog) (texts : List (List String))
    (entries : List Entry) : Prop where
  -- What the text of a document is, with the lines of each block at the top and all names that
  -- are written.
  written : WritesAll catalog settings.indent 0 "" ((Layout.ofCatalog catalog).childrenOf "") texts entries
  text : (Document.ofCatalog settings edition catalog).text =
    Text.joinLines (header settings edition ((Layout.ofCatalog catalog).childrenOf "").length) ++ "\n" ++
      bodyText (texts.map Text.joinLines)
  entities : (Document.ofCatalog settings edition catalog).entities = ((Layout.ofCatalog catalog).childrenOf "").length
  once : (entries.map (·.name)).Nodup
  complete : ∀ name, name ∈ entries.map (·.name) ↔
    Defined catalog name ∨ name ∈ (Layout.ofCatalog catalog).synthesized
  inside : ∀ name parent, (∃ entry ∈ entries, entry.name = name ∧ entry.parent = parent) ↔
    (Layout.ofCatalog catalog).parent? name = some parent
  depth : ∀ entry ∈ entries, DepthOf (Layout.ofCatalog catalog) entry.name entry.depth

theorem line_at_top (indent : String) (lines : List String) : lines.map (lineAt indent 0) = lines := by
  have same : lineAt indent 0 = id := by
    funext text
    simp [lineAt]
  rw [same, List.map_id]

theorem entry_names_placed (catalog : Catalog) (rooted : Rooted catalog) :
    ((Block.entriesOf "" 0 (Layout.ofCatalog catalog).blocks).map (·.name)).Perm (placedNames catalog) := by
  rw [blocks_entry_names, ← placement_names]
  have whole := (forest_definitions _ (layout_arranged catalog rooted)).map (·.name)
  rw [List.map_map] at whole
  exact whole

theorem top_written (indent : String) (catalog : Catalog) (rooted : Rooted catalog) :
    WritesAll catalog indent 0 "" ((Layout.ofCatalog catalog).childrenOf "")
      ((Layout.ofCatalog catalog).blocks.map (Block.lines (Layout.ofCatalog catalog) indent))
      (Block.entriesOf "" 0 (Layout.ofCatalog catalog).blocks) := by
  have written := writes_blocks catalog rooted indent 0 "" (Layout.ofCatalog catalog).blocks fun block inside =>
    (mem_forest _ (layout_arranged catalog rooted) "" block).mp inside
  have top : (Layout.ofCatalog catalog).blocks.map Block.name = (Layout.ofCatalog catalog).childrenOf "" :=
    forest_children catalog rooted ""
  simp only [top, line_at_top] at written
  exact written

theorem document_written (settings : Settings) (edition : Edition) (catalog : Catalog) (rooted : Rooted catalog) :
    (Document.ofCatalog settings edition catalog).entities = ((Layout.ofCatalog catalog).childrenOf "").length ∧
      (Document.ofCatalog settings edition catalog).text =
        Text.joinLines (header settings edition ((Layout.ofCatalog catalog).childrenOf "").length) ++ "\n" ++
          bodyText (((Layout.ofCatalog catalog).blocks.map (Block.lines (Layout.ofCatalog catalog) settings.indent)).map
            Text.joinLines) := by
  have count : (Layout.ofCatalog catalog).blocks.length = ((Layout.ofCatalog catalog).childrenOf "").length := by
    rw [← forest_children catalog rooted "", List.length_map, Layout.blocks]
  refine ⟨count, ?_⟩
  rw [Document.ofCatalog, Document.ofLayout, count, List.map_map]
  rfl

theorem entry_named_iff (catalog : Catalog) (rooted : Rooted catalog) (name : String) :
    name ∈ (Block.entriesOf "" 0 (Layout.ofCatalog catalog).blocks).map (·.name) ↔
      Defined catalog name ∨ name ∈ (Layout.ofCatalog catalog).synthesized := by
  rw [(entry_names_placed catalog rooted).mem_iff, placed_iff_defined_or_synthesized catalog rooted]

theorem entry_names_distinct (catalog : Catalog) (rooted : Rooted catalog) :
    ((Block.entriesOf "" 0 (Layout.ofCatalog catalog).blocks).map (·.name)).Nodup :=
  (entry_names_placed catalog rooted).nodup_iff.mpr (placed_names_nodup catalog)

theorem document_outline (settings : Settings) (edition : Edition) (catalog : Catalog) (rooted : Rooted catalog) :
    ∃ texts entries, Outline settings edition catalog texts entries := by
  have written := top_written settings.indent catalog rooted
  obtain ⟨count, text⟩ := document_written settings edition catalog rooted
  have placed := writes_all_entries catalog settings.indent 0 "" _ _ _ written fun name member =>
    ⟨(mem_children_iff catalog name "").mp member, .top name ((mem_children_iff catalog name "").mp member)⟩
  refine ⟨_, _, written, text, count, entry_names_distinct catalog rooted, entry_named_iff catalog rooted, ?_, ?_⟩
  · intro name parent
    constructor
    · rintro ⟨entry, member, rfl, rfl⟩
      exact (placed entry member).1
    · intro within
      have known := ((parent_some_iff catalog name parent).mp within).1
      obtain ⟨entry, member, rfl⟩ := List.mem_map.mp ((entry_names_placed catalog rooted).mem_iff.mpr known)
      exact ⟨entry, member, rfl, Option.some.inj ((placed entry member).1.symm.trans within)⟩
  · exact fun entry member => (placed entry member).2

theorem document_outline_mixed : Rooted mixedCatalog ∧ ∃ texts entries,
    Outline { indentSize := 4 } ⟨"2.3000", "2024-01-31"⟩ mixedCatalog texts entries :=
  ⟨mixed_rooted, document_outline { indentSize := 4 } ⟨"2.3000", "2024-01-31"⟩ mixedCatalog mixed_rooted⟩

end SchemaRecovery.Proto
