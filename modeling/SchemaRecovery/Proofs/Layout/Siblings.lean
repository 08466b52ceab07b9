import SchemaRecovery.Proofs.Layout.Reference

set_option autoImplicit false

namespace SchemaRecovery.Schema

open Name (joinSegments segments nestingPath short)

theorem join_empty (parts : List (List Char)) (named : ∀ part ∈ parts, isNameText part)
    (empty : joinSegments parts = []) : parts = [] := by
  cases parts with
  | nil => rfl
  | cons part rest =>
      have first := named part List.mem_cons_self
      cases rest with
      | nil =>
          rw [joinSegments] at empty
          rw [empty] at first
          cases first
      | cons next rest => simp [joinSegments] at empty

theorem name_of_parts (a b : String) (left : Segmented a) (right : Segmented b) (path : nestingPath a = nestingPath b)
    (last : short a = short b) : a = b := by
  have outer (name : String) (named : Segmented name) (top : nestingPath name = "") : (segments name).dropLast = [] := by
    refine join_empty _ (fun part member => named part ((List.dropLast_sublist _).mem member)) ?_
    simpa [nestingPath] using top
  have init : (segments a).dropLast = (segments b).dropLast := by
    by_cases top : nestingPath a = ""
    · rw [outer a left top, outer b right (path ▸ top)]
    · rw [← nesting_path_segments a left top, path, nesting_path_segments b right (path ▸ top)]
  have whole (name : String) : joinSegments (segments name) = name.toList := Name.join_split _
  refine String.toList_inj.mp ?_
  rw [← whole a, ← whole b, segments_last a, segments_last b, init, last]

end SchemaRecovery.Schema

namespace SchemaRecovery.Proto

open Schema (Catalog Definition Segmented Textual textual_enclosing)

def Moved (catalog : Catalog) (name : String) : Prop :=
  -- A name that stands at the top because the definition around it is an enum.
  ∃ outer, findNamed catalog.byName (enclosing catalog.nesting name) = some outer ∧ outer.isEnum = true

def printedBlocks (blocks : List Block) : List Block := blocks.filter fun block => block.form ≠ .unknown

section
variable (catalog : Catalog) (spelled : Spelled catalog)
include spelled

theorem block_placed (parent : String) (block : Block)
    (member : block ∈ forest (Layout.ofCatalog catalog).placements parent) :
    Segmented block.name ∧ block.shown = Schema.Name.short block.name ∧
      (parent = "" ∧ Moved catalog block.name ∨ Schema.Name.nestingPath block.name = parent) := by
  have arranged := layout_arranged catalog (spelled_rooted catalog spelled)
  obtain ⟨placement, present, inside, rfl⟩ := (mem_forest _ arranged parent block).mp member
  obtain ⟨segmented, shown⟩ := placement_shown catalog spelled placement present
  rw [block_of_name]
  refine ⟨segmented, shown, ?_⟩
  rw [placements_eq] at present
  obtain ⟨name, _, rfl⟩ := List.mem_map.mp present
  rw [place_name_name]
  rw [place_name_parent] at inside
  split at inside
  · rename_i enum
    obtain ⟨outer, found, values⟩ := (Option.any_eq_true _ _).mp enum
    exact .inl ⟨inside.symm, outer, found, values⟩
  · rw [textual_enclosing _ spelled.textual] at inside
    exact .inr inside

theorem siblings_names (parent : String) :
    ((forest (Layout.ofCatalog catalog).placements parent).map Block.name).Nodup := by
  have arranged := layout_arranged catalog (spelled_rooted catalog spelled)
  rw [forest_names _ arranged.distinct]
  exact Schema.erase_dups_nodup _

theorem siblings_shown (parent : String) (a b : Block)
    (left : a ∈ forest (Layout.ofCatalog catalog).placements parent)
    (right : b ∈ forest (Layout.ofCatalog catalog).placements parent)
    (same : a.shown = b.shown) : a = b ∨ parent = "" ∧ (Moved catalog a.name ∨ Moved catalog b.name) := by
  obtain ⟨first, shownFirst, placeFirst⟩ := block_placed catalog spelled parent a left
  obtain ⟨second, shownSecond, placeSecond⟩ := block_placed catalog spelled parent b right
  rcases placeFirst with ⟨top, moved⟩ | pathFirst
  · exact .inr ⟨top, .inl moved⟩
  · rcases placeSecond with ⟨top, moved⟩ | pathSecond
    · exact .inr ⟨top, .inr moved⟩
    · have last : Schema.Name.short a.name = Schema.Name.short b.name := by rw [← shownFirst, ← shownSecond, same]
      have named := Schema.name_of_parts a.name b.name first second (pathFirst.trans pathSecond.symm) last
      exact .inl (List.inj_on_of_nodup_map (siblings_names catalog spelled parent) left right named)

theorem siblings_distinct_iff :
    (∀ site ∈ (Layout.ofCatalog catalog).printed, ((printedBlocks site.block.nested).map Block.shown).Nodup) ∧
      (((printedBlocks (Layout.ofCatalog catalog).blocks).map Block.shown).Nodup ↔
        ∀ a ∈ printedBlocks (Layout.ofCatalog catalog).blocks, ∀ b ∈ printedBlocks (Layout.ofCatalog catalog).blocks,
          Moved catalog a.name → Schema.Name.short a.name = Schema.Name.short b.name → a = b) := by
  have arranged := layout_arranged catalog (spelled_rooted catalog spelled)
  have once (parent : String) : (forest (Layout.ofCatalog catalog).placements parent).Nodup :=
    .of_map _ (siblings_names catalog spelled parent)
  constructor
  · intro site printed
    obtain ⟨placement, member, here, _⟩ := printed_site_placed catalog (spelled_rooted catalog spelled) site printed
    have nested : site.block.nested = forest (Layout.ofCatalog catalog).placements placement.name := by
      rw [here]
      rfl
    rw [nested]
    refine List.Nodup.map_on (fun a left b right same => ?_) ((once placement.name).filter _)
    have apart := siblings_shown catalog spelled placement.name a b (List.mem_of_mem_filter left)
      (List.mem_of_mem_filter right) same
    exact apart.resolve_right fun top => arranged.named placement member top.1
  · have shown (block : Block) (member : block ∈ printedBlocks (Layout.ofCatalog catalog).blocks) :=
      (block_placed catalog spelled "" block (List.mem_of_mem_filter member)).2.1
    constructor
    · intro distinct a left b right _ last
      refine List.inj_on_of_nodup_map distinct left right ?_
      rw [shown a left, shown b right, last]
    · intro apart
      refine List.Nodup.map_on (fun a left b right same => ?_) ((once "").filter _)
      have last : Schema.Name.short a.name = Schema.Name.short b.name := by rw [← shown a left, ← shown b right, same]
      rcases siblings_shown catalog spelled "" a b (List.mem_of_mem_filter left) (List.mem_of_mem_filter right) same with
        equal | ⟨_, moved | moved⟩
      · exact equal
      · exact apart a left b right moved last
      · exact (apart b right a left moved last.symm).symm

end

def leaving : Definition := emptyNamed "A$B"
def holding : Definition := { name := "A", enumValues := some [⟨"X", 0⟩] }

def besides (other : String) : Catalog where
  modules := [⟨"Besides", .leaf .empty, [], [holding, leaving, emptyNamed other]⟩]
  nesting := ["A", "A$B", other].foldl
    (fun nesting key => nesting.register key (Schema.Name.nestingPath key)) {}

theorem besides_spelled (other : String) (simple : Segmented other) : Spelled (besides other) where
  named := by
    intro definition member
    simp only [Catalog.definitions, besides, List.flatMap_cons, List.flatMap_nil, List.append_nil, List.mem_cons,
      List.not_mem_nil, or_false] at member
    rcases member with rfl | rfl | rfl
    · decide
    · decide
    · exact simple
  textual := Recovery.textual_register_all {} _ Schema.textual_empty

theorem besides_placements (other : String) (known : other = "B" ∨ other = "C") :
    (Layout.ofCatalog (besides other)).placements =
      [⟨holding, "", none⟩, ⟨leaving, "", some (.enumPath "A")⟩, ⟨emptyNamed other, "", none⟩] := by
  have ways : placedNames (besides other) = ([["A"], ["A$B", "A"], [other]].flatMap List.reverse).eraseDups := by
    refine placed_names_eq (besides other) ["A", "A$B", other] _ ?_ ?_ ?_
    · rcases known with rfl | rfl <;> decide
    · intro name
      simp [Defined, Catalog.definitions, besides, holding, leaving, emptyNamed, eq_comm]
    · have top : WayOut (besides other).nesting "A" ["A"] := .top _ (by rcases known with rfl | rfl <;> decide)
      have inner : WayOut (besides other).nesting "A$B" ["A$B", "A"] := by
        rcases known with rfl | rfl
        · exact .step _ _ (by decide) top
        · exact .step _ _ (by decide) top
      exact .cons top (.cons inner (.cons (.top _ (by rcases known with rfl | rfl <;> decide)) .nil))
  rw [placements_eq, ways]
  rcases known with rfl | rfl <;> rfl

theorem besides_blocks (other : String) (known : other = "B" ∨ other = "C") :
    printedBlocks (Layout.ofCatalog (besides other)).blocks =
      [.node holding "A" [], .node leaving "B" [], .node (emptyNamed other) other []] := by
  rw [Layout.blocks, besides_placements other known]
  rcases known with rfl | rfl <;> rfl

theorem siblings_distinct_besides : Spelled (besides "C") ∧
    ((printedBlocks (Layout.ofCatalog (besides "C")).blocks).map Block.shown).Nodup ∧
    Moved (besides "C") "A$B" := by
  have spelled := besides_spelled "C" (by decide)
  refine ⟨spelled, (siblings_distinct_iff (besides "C") spelled).2.mpr ?_, holding, by decide, by decide⟩
  rw [besides_blocks "C" (.inr rfl)]
  intro a left b right _ last
  simp only [List.mem_cons, List.not_mem_nil, or_false] at left right
  rcases left with rfl | rfl | rfl <;> rcases right with rfl | rfl | rfl <;>
    first | rfl | exact absurd last (by decide)

theorem moved_name_clashes : (∀ definition ∈ (besides "B").definitions, Segmented definition.name) ∧
    ((besides "B").definitions.map (·.name)).Nodup ∧ Textual (besides "B").nesting ∧
    (printedBlocks (Layout.ofCatalog (besides "B")).blocks).map (fun block => (block.name, block.shown, block.form)) =
      [("A", "A", .enum), ("A$B", "B", .message), ("B", "B", .message)] ∧
    ¬ ((printedBlocks (Layout.ofCatalog (besides "B")).blocks).map Block.shown).Nodup ∧
    (Layout.ofCatalog (besides "B")).warnings.map (·.kind) = ["orphan_nested"] := by
  -- The two messages are printed with one name, and the only warning is about the enum.
  have spelled := besides_spelled "B" (by decide)
  refine ⟨spelled.named, by decide, spelled.textual, ?_, ?_, ?_⟩
  · rw [besides_blocks "B" (.inl rfl)]
    rfl
  · rw [besides_blocks "B" (.inl rfl)]
    decide
  · rw [Layout.warnings, besides_placements "B" (.inl rfl)]
    rfl

end SchemaRecovery.Proto
