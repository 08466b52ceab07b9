import SchemaRecovery.Proofs.Reading.Block

set_option autoImplicit false

namespace SchemaRecovery.Proto

open Schema (Catalog Definition Field IsName Member Segmented)

theorem join_lines_chars (line : String) (lines : List String) :
    (Text.joinLines (line :: lines)).toList ++ ['\n'] = indentedText [] (line :: lines) := by
  induction lines generalizing line with
  | nil => simp [Text.joinLines]
  | cons next lines ih =>
      have further := ih next
      rw [Text.joinLines] at further ⊢
      rw [String.intercalate_cons_cons, indented_cons, ← further]
      simp

def topText : List (List String) → List Char
  | [] => []
  | [lines] => indentedText [] lines
  | lines :: next :: rest => indentedText [] lines ++ '\n' :: topText (next :: rest)

theorem body_text_chars (blocks : List (List String)) (some : ∀ lines ∈ blocks, lines ≠ []) :
    (bodyText (blocks.map Text.joinLines)).toList = topText blocks := by
  cases blocks with
  | nil => rfl
  | cons lines rest =>
      rw [bodyText, if_neg (by simp), String.toList_append]
      induction rest generalizing lines with
      | nil =>
          cases lines with
          | nil => exact absurd rfl (some [] List.mem_cons_self)
          | cons line lines => simpa [topText] using join_lines_chars line lines
      | cons next rest ih =>
          have further := ih next fun other member => some other (List.mem_cons_of_mem _ member)
          cases lines with
          | nil => exact absurd rfl (some [] List.mem_cons_self)
          | cons line lines =>
              rw [topText, ← further, ← join_lines_chars, List.map_cons, List.map_cons, String.intercalate_cons_cons]
              simp

theorem block_lines_some (layout : Layout) (indent : String) (block : Block) : block.lines layout indent ≠ [] := by
  cases block with
  | node definition shown nested =>
      rw [Block.lines]
      split <;> simp

section
variable (layout : Layout) (settings : Settings) (edition : Edition) (outcome : Outcome)

theorem settings_indent_blank : ∀ c ∈ settings.indent.toList, c = ' ' := by
  intro c member
  rw [Settings.indent, String.toList_ofList] at member
  exact (List.mem_replicate.mp member).2

theorem reads_top (blocks : List Block) (lettered : ∀ site ∈ Block.sitesOf [] blocks, LetteredBlock layout site.block)
    (point : Point) (item : Enclosure.top.ItemPoint point) (read : List Declaration) (line : Nat)
    (further : (∀ site ∈ Block.sitesOf [] blocks, LegibleBlock layout site.block) →
      outcome (.ok (read.reverse ++ topDeclarations layout line blocks)))
    (refused : ¬ (∀ site ∈ Block.sitesOf [] blocks, LegibleBlock layout site.block) → outcome.Faulty) :
    Reads (Enclosure.top.machine point read) line (topText (blocks.map (Block.lines layout settings.indent))) outcome := by
  have blank := settings_indent_blank settings
  have ended (point : Point) (item : Enclosure.top.ItemPoint point) (read : List Declaration) (line : Nat)
      (given : outcome (.ok read.reverse)) : Reads (Enclosure.top.machine point read) line [] outcome := by
    refine reads_end (Enclosure.top.machine point read) line outcome ?_ given
    rcases item with rfl | rfl <;> rfl
  induction blocks generalizing point read line with
  | nil =>
      refine ended point item read line ?_
      simpa [topDeclarations] using further fun _ absent => absurd absent List.not_mem_nil
  | cons block rest ih =>
      rw [Block.sitesOf, List.forall_mem_append] at lettered further refused
      have first := reads_block layout settings.indent outcome blank block [] lettered.1 [] (by simp) .top point item read
        line
      rw [topDeclarations, ← List.append_assoc] at further
      cases rest with
      | nil =>
          have whole := first [] (fun legible point item => ended point item _ _ ?_)
            fun illegible => refused fun all => illegible all.1
          · simpa [topText] using whole
          · simpa [topDeclarations] using further ⟨legible, fun _ absent => absurd absent List.not_mem_nil⟩
      | cons next rest =>
          refine first _ (fun legible point item => ?_) fun illegible => refused fun all => illegible all.1
          apply reads_line_feed
          refine ih lettered.2 point item _ (line + block.height + 1) (fun legibleRest => ?_)
            fun illegible => refused fun all => illegible all.2
          simpa using further ⟨legible, legibleRest⟩

theorem reads_top_blocks (blocks : List Block)
    (printable : ∀ site ∈ Block.sitesOf [] blocks, PrintableBlock layout site.block) (point : Point)
    (item : Enclosure.top.ItemPoint point) (read : List Declaration) (line : Nat) :
    Reads (Enclosure.top.machine point read) line (topText (blocks.map (Block.lines layout settings.indent)))
      (Gives (read.reverse ++ topDeclarations layout line blocks)) := by
  have both (site : Site) (member : site ∈ Block.sitesOf [] blocks) :=
    printable_block layout site.block (printable site member)
  refine reads_top layout settings _ blocks (fun site member => (both site member).1) point item read line (fun _ => rfl)
    fun illegible => ?_
  exact absurd (fun site member => (both site member).2) illegible

theorem reads_comment_line (machine : Machine) (line : Nat) (text : String) (rest : List Char) (whole : '\n' ∉ text.toList)
    (further : Reads machine (line + 1) rest outcome) :
    Reads machine line (("/// " ++ text).toList ++ '\n' :: rest) outcome := by
  have chars : ("/// " ++ text).toList = '/' :: '/' :: ('/' :: ' ' :: text.toList) := by simp
  rw [chars]
  refine reads_comment machine line outcome _ rest ?_ further
  simp [whole]

theorem reads_header (entities : Nat) (package : Dotted settings.package) (label : '\n' ∉ settings.clientLabel.toList)
    (version : '\n' ∉ edition.version.toList) (generatedOn : '\n' ∉ edition.generatedOn.toList) (rest : List Char)
    (further : Reads (Enclosure.top.machine .top []) 8 rest outcome) :
    Reads Machine.start 1 (indentedText [] (header settings edition entities) ++ rest) outcome := by
  have syntaxLine : "syntax = \"proto3\";".toList =
      Keyword.syntaxWord.spelling.toList ++ ' ' :: '=' :: ' ' :: ("\"proto3\"".toList ++ [';']) := by decide
  have packageLine : ("package " ++ settings.package ++ ";").toList =
      Keyword.packageWord.spelling.toList ++ ' ' :: (settings.package.toList ++ [';']) := by
    simp [Keyword.spelling]
  have labelLine : "/// " ++ settings.clientLabel ++ " Version: " ++ edition.version =
      "/// " ++ (settings.clientLabel ++ " Version: " ++ edition.version) := by
    simp [String.append_assoc]
  have number : '\n' ∉ (Decimal.numeral entities).toList := by
    rw [Decimal.numeral, String.toList_ofList]
    exact solid_line _ (int_solid entities)
  simp only [header, indented_cons, indented_nil, syntaxLine, packageLine, labelLine, List.append_assoc, List.cons_append,
    List.nil_append, String.toList_empty]
  refine reads_top_word 1 outcome [] ⟨.syntaxEqual, [], []⟩ .syntaxWord _ rfl (fun _ _ => rfl) ?_
  apply reads_space
  refine reads_mark _ 1 outcome ⟨.syntaxText, [], []⟩ .equal _ rfl (fun _ _ => rfl) ?_
  apply reads_space
  have syntaxSolid : ∀ c ∈ "\"proto3\"".toList, isSolid c := List.all_eq_true.mp (by decide)
  refine reads_token _ 1 outcome ⟨.statementEnd, [], []⟩ ⟨.quotedText, "\"proto3\"".toList⟩ _ rfl syntaxSolid
    (fun _ => rfl) ?_
  refine reads_mark _ 1 outcome ⟨.top, [], []⟩ .semicolon _ rfl (fun _ _ => rfl) ?_
  apply reads_line_feed
  refine reads_top_word 2 outcome [] ⟨.typePart .package [], [], []⟩ .packageWord _ rfl (fun _ _ => rfl) ?_
  apply reads_space
  refine reads_type_part ⟨.top, [], []⟩ 2 outcome .package settings.package ';' _ package (by decide) fun parts _ => ?_
  refine reads_mark _ 2 outcome ⟨.top, [], []⟩ .semicolon _ rfl (fun _ _ => rfl) ?_
  apply reads_line_feed
  apply reads_line_feed
  refine reads_comment_line outcome _ 4 _ _ ?_ ?_
  · simp [label, version]
  refine reads_comment_line outcome _ 5 ("Generated on: " ++ edition.generatedOn) _ ?_ ?_
  · simp [generatedOn]
  refine reads_comment_line outcome _ 6 ("Entities found: " ++ Decimal.numeral entities) _ ?_ ?_
  · simp [number]
  exact reads_line_feed _ 7 outcome rest further

end

theorem document_chars (settings : Settings) (edition : Edition) (layout : Layout) :
    (Document.ofLayout settings edition layout).text.toList =
      indentedText [] (header settings edition layout.blocks.length) ++
        topText (layout.blocks.map (Block.lines layout settings.indent)) := by
  have some : ∀ lines ∈ layout.blocks.map (Block.lines layout settings.indent), lines ≠ [] := by
    intro lines member
    obtain ⟨block, _, rfl⟩ := List.mem_map.mp member
    exact block_lines_some layout settings.indent block
  have body := body_text_chars _ some
  rw [List.map_map] at body
  have head : (Text.joinLines (header settings edition layout.blocks.length)).toList ++ "\n".toList =
      indentedText [] (header settings edition layout.blocks.length) := join_lines_chars _ _
  simp only [Document.ofLayout, String.toList_append, ← body, ← head]
  rfl

structure WritableField (layout : Layout) (message : String) (place : FieldPlace) (field : Field) : Prop where
  named : IsName field.name
  numbered : ∃ n : Nat, field.id = some (n : Int)
  types : ∀ type ∈ typeNames field, Segmented type
  first : ∀ type ∈ printedTypes layout message field, firstPart type ∉ reservedWords.map String.toList
  single : place = .inOneof → field.isMap = false

def WritableMember (layout : Layout) (message : String) : Member → Prop
  | .field single => WritableField layout message .alone single
  | .oneof group => IsName group.name ∧ ∀ field ∈ group.members, WritableField layout message .inOneof field

structure Writable (settings : Settings) (edition : Edition) (catalog : Catalog) : Prop where
  spelled : Spelled catalog
  members : ∀ definition ∈ catalog.definitions, ∀ member ∈ definition.memberList,
    WritableMember (Layout.ofCatalog catalog) definition.name member
  values : ∀ definition ∈ catalog.definitions, ∀ value ∈ definition.values, IsName value.name
  package : Dotted settings.package
  label : '\n' ∉ settings.clientLabel.toList
  version : '\n' ∉ edition.version.toList
  generatedOn : '\n' ∉ edition.generatedOn.toList

structure ShowsLayout (catalog : Catalog) (blocks : List Block) : Prop where
  -- The blocks are the layout: in every block, or at the top, the children of its name in
  -- ascending order, each shown under its last segment and with the definition that the catalog
  -- has for it.
  top : blocks.map Block.name = (Layout.ofCatalog catalog).childrenOf ""
  nested : ∀ site ∈ Block.sitesOf [] blocks,
    site.block.nested.map Block.name = (Layout.ofCatalog catalog).childrenOf site.block.name
  shown : ∀ site ∈ Block.sitesOf [] blocks, site.block.shown = Schema.Name.short site.block.name
  definition : ∀ site ∈ Block.sitesOf [] blocks,
    site.block.definition = (findNamed catalog.byName site.block.name).getD (emptyMessage site.block.name)

section
variable (catalog : Catalog) (spelled : Spelled catalog)
include spelled

theorem printed_dotted (message : String) (field : Field) (types : ∀ type ∈ typeNames field, Segmented type) :
    ∀ type ∈ printedTypes (Layout.ofCatalog catalog) message field, Dotted type := by
  intro type member
  rw [printed_types_eq] at member
  split at member
  · exact List.mem_singleton.mp member ▸ dotted_single _ (by decide)
  · obtain ⟨name, present, rfl⟩ := List.mem_map.mp member
    exact reference_dotted catalog spelled name message (types name present)

theorem writable_field_printable (message : String) (place : FieldPlace) (field : Field)
    (writable : WritableField (Layout.ofCatalog catalog) message place field) :
    PrintableField (Layout.ofCatalog catalog) message place field where
  named := writable.named
  numbered := writable.numbered
  dotted := printed_dotted catalog spelled message field writable.types
  first := writable.first
  single := writable.single

theorem layout_site (site : Site) (member : site ∈ Block.sitesOf [] (Layout.ofCatalog catalog).blocks) :
    ∃ placement ∈ (Layout.ofCatalog catalog).placements,
      site.block = blockOf (Layout.ofCatalog catalog).placements placement := by
  have arranged := layout_arranged catalog (spelled_rooted catalog spelled)
  obtain ⟨placement, present, same, _⟩ := blocks_sites_placed _ arranged [] _ "" (.inl ⟨rfl, rfl⟩)
    (fun block inside => (mem_forest _ arranged "" block).mp inside) site member
  exact ⟨placement, present, same⟩

theorem shows_layout : ShowsLayout catalog (Layout.ofCatalog catalog).blocks where
  top := forest_names _ (layout_arranged catalog (spelled_rooted catalog spelled)).distinct ""
  nested := by
    intro site member
    obtain ⟨placement, _, same⟩ := layout_site catalog spelled site member
    rw [same]
    exact forest_names _ (layout_arranged catalog (spelled_rooted catalog spelled)).distinct placement.name
  shown := by
    intro site member
    obtain ⟨placement, present, same⟩ := layout_site catalog spelled site member
    rw [same]
    exact (placement_shown catalog spelled placement present).2
  definition := by
    intro site member
    obtain ⟨placement, present, same⟩ := layout_site catalog spelled site member
    rw [placements_eq] at present
    obtain ⟨name, _, rfl⟩ := List.mem_map.mp present
    rw [same, block_of_name, place_name_name]
    exact place_name_definition _ _ _

end

theorem placement_filled (catalog : Catalog) (placement : Placement)
    (member : placement ∈ (Layout.ofCatalog catalog).placements)
    (filled : placement.definition.memberList ≠ [] ∨ placement.definition.values ≠ []) :
    placement.definition ∈ catalog.definitions := by
  rw [placements_eq] at member
  obtain ⟨name, _, rfl⟩ := List.mem_map.mp member
  rw [place_name_definition] at filled ⊢
  cases found : findNamed catalog.byName name with
  | none =>
      rw [found] at filled
      exact filled.elim (absurd rfl) (absurd rfl)
  | some definition => exact Schema.mem_by_name catalog definition (find_named_some _ _ _ found).1

theorem placement_printable (settings : Settings) (edition : Edition) (catalog : Catalog)
    (writable : Writable settings edition catalog) (placement : Placement)
    (member : placement ∈ (Layout.ofCatalog catalog).placements) :
    PrintableBlock (Layout.ofCatalog catalog) (blockOf (Layout.ofCatalog catalog).placements placement) := by
  obtain ⟨segmented, shown⟩ := placement_shown catalog writable.spelled placement member
  have filled := placement_filled catalog placement member
  refine ⟨?_, Schema.segmented_line _ segmented, ?_, ?_⟩
  · rw [blockOf, Block.shown, shown]
    exact Schema.short_name _ segmented
  · intro inner inside
    have allowed := writable.members _ (filled (.inl (List.ne_nil_of_mem inside))) inner inside
    cases inner with
    | field single => exact writable_field_printable catalog writable.spelled _ _ _ allowed
    | oneof group =>
        exact ⟨allowed.1, fun field own => writable_field_printable catalog writable.spelled _ _ _ (allowed.2 field own)⟩
  · intro value inside
    exact writable.values _ (filled (.inr (List.ne_nil_of_mem inside))) value inside

theorem document_read (settings : Settings) (edition : Edition) (catalog : Catalog)
    (writable : Writable settings edition catalog) :
    read (Document.ofCatalog settings edition catalog).text =
      .ok (topDeclarations (Layout.ofCatalog catalog) 8 (Layout.ofCatalog catalog).blocks) := by
  have printable : ∀ site ∈ Block.sitesOf [] (Layout.ofCatalog catalog).blocks,
      PrintableBlock (Layout.ofCatalog catalog) site.block := by
    intro site member
    obtain ⟨placement, present, same⟩ := layout_site catalog writable.spelled site member
    exact same ▸ placement_printable settings edition catalog writable placement present
  have body := reads_top_blocks (Layout.ofCatalog catalog) settings _ printable .top (.inl rfl) [] 8
  have whole := reads_header settings edition _ (Layout.ofCatalog catalog).blocks.length writable.package writable.label
    writable.version writable.generatedOn _ body
  rw [read, Source.ofText, Document.ofCatalog, document_chars]
  exact whole Place.start 1

theorem read_document (settings : Settings) (edition : Edition) (catalog : Catalog)
    (writable : Writable settings edition catalog) :
    read (Document.ofCatalog settings edition catalog).text =
        .ok (topDeclarations (Layout.ofCatalog catalog) 8 (Layout.ofCatalog catalog).blocks) ∧
      ShowsLayout catalog (Layout.ofCatalog catalog).blocks :=
  ⟨document_read settings edition catalog writable, shows_layout catalog writable.spelled⟩

def documented : Catalog where
  modules := [⟨"Documented", .leaf .empty, [], [
    { name := "Outer", members := some [
      .field { name := "message", id := some 1, type := some "int32", flags := ["repeated", "packed"] },
      .field { name := "kinds", id := some 2, type := some "map", mapTypes := some ("string", "Outer$Kind") },
      .oneof ⟨"choice", [{ name := "kind", id := some 3, type := some "Outer$Kind" }]⟩,
      .field { name := "lost", id := some 0 }] },
    { name := "Outer$Kind", nestingPath := "Outer", enumValues := some [⟨"enum", 0⟩, ⟨"B", -1⟩] },
    { name := "Bare" }]⟩]

theorem documented_spelled : Spelled documented where
  named := by decide
  textual := Schema.textual_empty

theorem documented_placed : placedNames documented = ["Bare", "Outer", "Outer$Kind"] := by
  have ways : placedNames documented = ([["Bare"], ["Outer"], ["Outer$Kind", "Outer"]].flatMap List.reverse).eraseDups := by
    refine placed_names_eq documented ["Bare", "Outer", "Outer$Kind"] _ (by decide) ?_ ?_
    · intro name
      simp only [Defined, Catalog.definitions, documented, List.flatMap_cons, List.flatMap_nil, List.append_nil,
        List.mem_cons, List.not_mem_nil, or_false, exists_eq_or_imp, exists_eq_left, eq_comm (b := name)]
      tauto
    · have top : WayOut documented.nesting "Outer" ["Outer"] := .top _ (by decide)
      exact .cons (.top _ (by decide)) (.cons top (.cons (.step _ _ (by decide) top) .nil))
  rw [ways]
  decide

theorem documented_reference (type shown : String)
    (named : (type, shown) ∈ [("int32", "int32"), ("string", "string"), ("Outer$Kind", "Kind")]) :
    (Layout.ofCatalog documented).reference type "Outer" = shown := by
  rw [Layout.reference, parent_of_catalog, documented_placed]
  simp only [List.mem_cons, Prod.mk.injEq, List.not_mem_nil, or_false] at named
  rcases named with ⟨rfl, rfl⟩ | ⟨rfl, rfl⟩ | ⟨rfl, rfl⟩ <;> rfl

theorem documented_members : ∀ definition ∈ documented.definitions, ∀ member ∈ definition.memberList,
    WritableMember (Layout.ofCatalog documented) definition.name member := by
  have kind := documented_reference "Outer$Kind" "Kind" (by simp)
  have text := documented_reference "string" "string" (by simp)
  have number := documented_reference "int32" "int32" (by simp)
  have alone {isMap : Prop} : FieldPlace.alone = .inOneof → isMap := fun same => absurd same (by decide)
  intro definition member
  simp only [Catalog.definitions, documented, List.flatMap_cons, List.flatMap_nil, List.append_nil, List.mem_cons,
    List.not_mem_nil, or_false] at member
  rcases member with rfl | rfl | rfl
  · intro inner inside
    simp only [Definition.memberList, Option.getD_some, List.mem_cons, List.not_mem_nil, or_false] at inside
    rcases inside with rfl | rfl | rfl | rfl
    · exact ⟨by decide, ⟨1, rfl⟩, by decide, by simp only [printedTypes, number]; decide, alone⟩
    · exact ⟨by decide, ⟨2, rfl⟩, by decide, by simp only [printedTypes, text, kind]; decide, alone⟩
    · refine ⟨by decide, fun field own => ?_⟩
      rw [List.mem_singleton.mp own]
      exact ⟨by decide, ⟨3, rfl⟩, by decide, by simp only [printedTypes, kind]; decide, fun _ => rfl⟩
    · exact ⟨by decide, ⟨0, rfl⟩, by decide, by decide, alone⟩
  · exact fun _ inside => absurd inside List.not_mem_nil
  · exact fun _ inside => absurd inside List.not_mem_nil

theorem documented_writable : Writable {} ⟨"2.3000", "2024-01-31T12:00:00.000Z"⟩ documented where
  spelled := documented_spelled
  members := documented_members
  values := by decide
  package := dotted_single _ (by decide)
  label := by decide
  version := by decide
  generatedOn := by decide

theorem documented_declarations :
    topDeclarations (Layout.ofCatalog documented) 8 (Layout.ofCatalog documented).blocks =
      [.message "Outer" 10 [.field ⟨"message", 1, ["int32"], some .repeated, 11⟩,
        .field ⟨"kinds", 2, ["string", "Kind"], none, 12⟩, .oneof "choice" 13 [⟨"kind", 3, ["Kind"], none, 14⟩],
        .field ⟨"lost", 0, ["__unresolved__"], none, 16⟩, .enum "Kind" 17 [⟨"enum", 0⟩, ⟨"B", -1⟩]]] := by
  have kind := documented_reference "Outer$Kind" "Kind" (by simp)
  have text := documented_reference "string" "string" (by simp)
  have number := documented_reference "int32" "int32" (by simp)
  have printed (layout : Layout) : topDeclarations layout 8
      (forest (["Bare", "Outer", "Outer$Kind"].map (placeName documented.byName documented.nesting)) "") =
        [.message "Outer" 10 [.field ⟨"message", 1, [layout.reference "int32" "Outer"], some .repeated, 11⟩,
          .field ⟨"kinds", 2, [layout.reference "string" "Outer", layout.reference "Outer$Kind" "Outer"], none, 12⟩,
          .oneof "choice" 13 [⟨"kind", 3, [layout.reference "Outer$Kind" "Outer"], none, 14⟩],
          .field ⟨"lost", 0, ["__unresolved__"], none, 16⟩, .enum "Kind" 17 [⟨"enum", 0⟩, ⟨"B", -1⟩]]] := rfl
  rw [Layout.blocks, placements_eq, documented_placed, printed, kind, text, number]

theorem read_document_documented :
    Writable {} ⟨"2.3000", "2024-01-31T12:00:00.000Z"⟩ documented ∧
      read (Document.ofCatalog {} ⟨"2.3000", "2024-01-31T12:00:00.000Z"⟩ documented).text =
        .ok [.message "Outer" 10 [.field ⟨"message", 1, ["int32"], some .repeated, 11⟩,
          .field ⟨"kinds", 2, ["string", "Kind"], none, 12⟩, .oneof "choice" 13 [⟨"kind", 3, ["Kind"], none, 14⟩],
          .field ⟨"lost", 0, ["__unresolved__"], none, 16⟩, .enum "Kind" 17 [⟨"enum", 0⟩, ⟨"B", -1⟩]]] :=
  ⟨documented_writable, documented_declarations ▸ (read_document {} _ documented documented_writable).1⟩

end SchemaRecovery.Proto
