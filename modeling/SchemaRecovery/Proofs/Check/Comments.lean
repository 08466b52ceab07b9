import SchemaRecovery.Proofs.Reading.Document
import SchemaRecovery.Proto.Check
import Mathlib.Data.List.TakeWhile

set_option autoImplicit false

namespace SchemaRecovery.Proto

open Schema (Catalog Definition Field IsName Member Segmented isNameText)

theorem feed_lines_append (line rest : List Char) (whole : '\n' ∉ line) :
    feedLines (line ++ '\n' :: rest) = line :: feedLines rest := by
  induction line with
  | nil => rfl
  | cons c line ih =>
      rw [List.mem_cons, not_or] at whole
      rw [List.cons_append, feedLines, if_neg (Ne.symm whole.1), ih whole.2]

def mentioned (text : List Char) : List String := (feedLines text).filterMap unknownEntity?

def mentionedBy (lines : List String) : List String := lines.filterMap fun line => unknownEntity? line.toList

theorem mentioned_lines (lines : List String) (whole : ∀ line ∈ lines, '\n' ∉ line.toList) (rest : List Char) :
    mentioned (indentedText [] lines ++ rest) = mentionedBy lines ++ mentioned rest := by
  induction lines with
  | nil => rfl
  | cons line lines ih =>
      have further := ih fun other member => whole other (List.mem_cons_of_mem _ member)
      rw [mentioned] at further ⊢
      rw [indented_cons, List.nil_append, List.append_assoc, List.cons_append,
        feed_lines_append _ _ (whole line List.mem_cons_self), mentionedBy, List.filterMap_cons, List.filterMap_cons,
        further, mentionedBy]
      cases unknownEntity? line.toList <;> rfl

theorem mentioned_empty_line (rest : List Char) : mentioned ('\n' :: rest) = mentioned rest := rfl

def Uncommented (line : String) : Prop := ∀ c ∈ line.toList, c ≠ '/' ∧ c ≠ '\n'

instance (line : String) : Decidable (Uncommented line) :=
  List.decidableBAll (fun c => c ≠ '/' ∧ c ≠ '\n') line.toList

theorem uncommented_append (a b : String) : Uncommented (a ++ b) ↔ Uncommented a ∧ Uncommented b := by
  simp only [Uncommented, String.toList_append, List.forall_mem_append]

theorem uncommented_line (line : String) (plain : Uncommented line) : '\n' ∉ line.toList :=
  fun member => (plain _ member).2 rfl

theorem uncommented_unmentioned (line : String) (plain : Uncommented line) : unknownEntity? line.toList = none := by
  rw [unknownEntity?]
  split
  · rename_i marked
    have slash : '/' ∈ line.toList := by
      have start : '/' ∈ line.toList.dropWhile isIndentChar :=
        (List.isPrefixOf_iff_prefix.mp marked).subset (by decide)
      exact (List.dropWhile_suffix _).subset start
    exact absurd rfl (plain _ slash).1
  · rfl

theorem mentioned_by_append (a b : List String) : mentionedBy (a ++ b) = mentionedBy a ++ mentionedBy b :=
  List.filterMap_append

theorem mentioned_by_uncommented (lines : List String) (plain : ∀ line ∈ lines, Uncommented line) :
    mentionedBy lines = [] :=
  List.filterMap_eq_nil_iff.mpr fun line member => uncommented_unmentioned line (plain line member)

section
variable (indent : String) (blank : ∀ c ∈ indent.toList, c = ' ')
include blank

theorem indented_mention (line : String) : unknownEntity? (indent ++ line).toList = unknownEntity? line.toList := by
  have spaces : ∀ c ∈ indent.toList, isIndentChar c = true := fun c member => by rw [blank c member]; rfl
  rw [unknownEntity?, unknownEntity?, String.toList_append, List.dropWhile_append_of_pos spaces]

theorem mentioned_by_indented (lines : List String) : mentionedBy (indentLines indent lines) = mentionedBy lines := by
  rw [mentionedBy, indentLines, List.filterMap_map]
  exact List.filterMap_congr fun line _ => indented_mention indent blank line

theorem indent_uncommented : Uncommented indent := by
  intro c member
  rw [blank c member]
  decide

end

theorem solid_uncommented (line : String) (solid : ∀ c ∈ line.toList, isSolid c) : Uncommented line := by
  intro c member
  have here := solid c member
  simp only [isSolid, Bool.and_eq_true, Bool.not_eq_true', decide_eq_true_eq] at here
  refine ⟨here.2, ?_⟩
  rintro rfl
  exact absurd here.1 (by decide)

theorem name_uncommented (name : String) (named : IsName name) : Uncommented name :=
  solid_uncommented name (name_solid _ named)

theorem number_uncommented (n : Int) : Uncommented (Decimal.intNumeral n) :=
  solid_uncommented _ (by simpa only [Decimal.intNumeral, String.toList_ofList] using int_solid n)

theorem dotted_uncommented (type : String) (dotted : Dotted type) : Uncommented type := by
  obtain ⟨first, more, begins, named, rfl, _⟩ := dotted_parts type dotted
  intro c member
  rw [intercalate_chars, List.mem_append, List.mem_flatMap] at member
  rcases member with inside | ⟨part, present, inside⟩
  · exact name_uncommented first begins c inside
  · rcases List.mem_cons.mp inside with rfl | deeper
    · decide
    · exact name_uncommented part (named part present) c deeper

section
variable (layout : Layout) (message : String)

theorem field_line_uncommented (place : FieldPlace) (field : Field) (printable : PrintableField layout message place field) :
    Uncommented (fieldLine layout message place field) := by
  have types : Uncommented (typeText (printedTypes layout message field)) := by
    rcases printed_types_cases layout message field with ⟨type, same⟩ | ⟨_, key, value, same⟩
    · have dotted := printable.dotted type (same ▸ List.mem_cons_self)
      rw [same]
      exact dotted_uncommented _ (by simpa [typeText, String.join] using dotted)
    · have first := dotted_uncommented key (printable.dotted key (by simp [same]))
      have second := dotted_uncommented value (printable.dotted value (by simp [same]))
      rw [same]
      simp only [typeText, uncommented_append]
      exact ⟨⟨⟨⟨by decide, first⟩, by decide⟩, second⟩, by decide⟩
  obtain ⟨n, numbered⟩ := printable.numbered
  have number : Uncommented (Schema.intOr field.id) := by
    rw [numbered]
    exact number_uncommented n
  simp only [fieldLine, uncommented_append]
  refine ⟨⟨⟨⟨⟨⟨⟨?_, types⟩, by decide⟩, name_uncommented _ printable.named⟩, by decide⟩, number⟩, ?_⟩, by decide⟩
  · split <;> decide
  · split <;> decide

theorem indent_lines_uncommented (indent : String) (blank : ∀ c ∈ indent.toList, c = ' ') (lines : List String)
    (plain : ∀ line ∈ lines, Uncommented line) : ∀ line ∈ indentLines indent lines, Uncommented line := by
  intro line member
  obtain ⟨inner, present, rfl⟩ := List.mem_map.mp member
  exact (uncommented_append _ _).mpr ⟨indent_uncommented indent blank, plain inner present⟩

theorem opening_uncommented (kind name : String) (plain : Uncommented kind) (named : IsName name) :
    Uncommented (kind ++ name ++ " \x7b") := by
  simp only [uncommented_append]
  exact ⟨⟨plain, name_uncommented name named⟩, by decide⟩

theorem member_lines_uncommented (indent : String) (blank : ∀ c ∈ indent.toList, c = ' ') (member : Member)
    (printable : PrintableMember layout message member) :
    ∀ line ∈ memberLines layout indent message member, Uncommented line := by
  cases member with
  | field single =>
      intro line here
      rw [List.mem_singleton.mp here]
      exact field_line_uncommented layout message .alone single printable
  | oneof group =>
      have inner : ∀ line ∈ group.members.map (fieldLine layout message .inOneof), Uncommented line := by
        intro line here
        obtain ⟨field, present, rfl⟩ := List.mem_map.mp here
        exact field_line_uncommented layout message .inOneof field (printable.2 field present)
      intro line here
      simp only [memberLines, List.cons_append, List.mem_cons, List.mem_append, List.not_mem_nil, or_false] at here
      rcases here with rfl | inside | rfl
      · exact opening_uncommented _ _ (by decide) printable.1
      · exact indent_lines_uncommented indent blank _ inner line inside
      · decide

theorem value_line_uncommented (value : Schema.EnumValue) (named : IsName value.name) :
    Uncommented (valueLine value) := by
  simp only [valueLine, uncommented_append]
  exact ⟨⟨⟨name_uncommented _ named, by decide⟩, number_uncommented value.id⟩, by decide⟩

end

theorem name_part_unblank (c : Char) (part : isNamePart c ∨ c = Schema.Name.separator) : Text.isBlank c = false := by
  have between (low high : Char) (above : 36 ≤ low.toNat) (below : high.toNat ≤ 122) (first : low.val ≤ c.val)
      (last : c.val ≤ high.val) : 36 ≤ c.toNat ∧ c.toNat ≤ 122 :=
    ⟨above.trans (UInt32.le_iff_toNat_le.mp first), (UInt32.le_iff_toNat_le.mp last).trans below⟩
  have bounds : 36 ≤ c.toNat ∧ c.toNat ≤ 122 := by
    rcases part with named | rfl
    · have classes : (((c.isUpper || c.isLower) || c.isDigit) || decide (c = '_')) = true := named
      simp only [Bool.or_eq_true, decide_eq_true_eq] at classes
      rcases classes with ((upper | lower) | digit) | rfl
      · obtain ⟨first, last⟩ := of_decide_eq_true upper
        exact between 'A' 'Z' (by decide) (by decide) first last
      · obtain ⟨first, last⟩ := Bool.and_eq_true_iff.mp lower
        exact between 'a' 'z' (by decide) (by decide) (of_decide_eq_true first) (of_decide_eq_true last)
      · obtain ⟨first, last⟩ := Bool.and_eq_true_iff.mp digit
        exact between '0' '9' (by decide) (by decide) (of_decide_eq_true first) (of_decide_eq_true last)
      · decide
    · decide
  refine Bool.eq_false_iff.mpr fun blank => ?_
  obtain ⟨range, member, low, high⟩ := (Text.in_ranges_iff _ c).mp blank
  have outside : ∀ range ∈ Text.blankRanges, range.2 < 36 ∨ 122 < range.1 := by decide
  have apart := outside range member
  omega

theorem segmented_unblank (name : String) (named : Segmented name) : ∀ c ∈ name.toList, Text.isBlank c = false := by
  have whole : Schema.Name.joinSegments (Schema.Name.segments name) = name.toList := Schema.Name.join_split _
  rw [← whole]
  intro c member
  refine name_part_unblank c ?_
  rcases Schema.join_chars _ c member with same | ⟨part, present, inside⟩
  · exact .inr same
  · exact .inl (Schema.name_text_parts part (named part present) c inside)

theorem segmented_some (name : String) (named : Segmented name) : name.toList ≠ [] := by
  intro empty
  have only : Schema.Name.segments name = [[]] := by rw [Schema.Name.segments, empty, Schema.Name.splitSegments]
  exact absurd (named [] (by simp [only])) (by decide)

theorem comment_mentions (name : String) (named : Segmented name) :
    unknownEntity? ("// Unknown entity " ++ name).toList = some name := by
  have start : ("// Unknown entity " ++ name).toList.dropWhile isIndentChar = entityMark.toList ++ name.toList := by
    simp [entityMark, isIndentChar]
  have word : (name.toList.takeWhile fun c => !Text.isBlank c) = name.toList := by
    rw [List.takeWhile_eq_self_iff]
    exact fun c member => by rw [segmented_unblank name named c member]; rfl
  rw [unknownEntity?, start, if_pos (List.isPrefixOf_iff_prefix.mpr (List.prefix_append _ _)), ← String.length_toList,
    List.drop_left, word, if_neg (by simpa using segmented_some name named), String.ofList_toList]

def Layout.bare (layout : Layout) : List Site :=
  (Block.sitesOf [] layout.blocks).filter fun site => site.block.form = .unknown

def bareNames (sites : List Site) : List String :=
  (sites.filter fun site => site.block.form = .unknown).map (·.block.name)

theorem bare_names_append (a b : List Site) : bareNames (a ++ b) = bareNames a ++ bareNames b := by
  simp [bareNames]

theorem bare_names_printed (site : Site) (rest : List Site) (printed : site.block.form ≠ .unknown) :
    bareNames (site :: rest) = bareNames rest := by
  rw [bareNames, List.filter_cons_of_neg (by simpa using printed), bareNames]

def Mentions (lines names : List String) : Prop :=
  (∀ line ∈ lines, '\n' ∉ line.toList) ∧ mentionedBy lines = names

theorem mentions_append (a b namesA namesB : List String) (first : Mentions a namesA) (second : Mentions b namesB) :
    Mentions (a ++ b) (namesA ++ namesB) := by
  refine ⟨fun line member => ?_, by rw [mentioned_by_append, first.2, second.2]⟩
  exact (List.mem_append.mp member).elim (first.1 line) (second.1 line)

theorem mentions_uncommented (lines : List String) (plain : ∀ line ∈ lines, Uncommented line) : Mentions lines [] :=
  ⟨fun line member => uncommented_line line (plain line member), mentioned_by_uncommented lines plain⟩

theorem mentions_indented (indent : String) (blank : ∀ c ∈ indent.toList, c = ' ') (lines names : List String)
    (inner : Mentions lines names) : Mentions (indentLines indent lines) names := by
  refine ⟨fun line member => ?_, by rw [mentioned_by_indented indent blank, inner.2]⟩
  obtain ⟨text, present, rfl⟩ := List.mem_map.mp member
  rw [String.toList_append, List.mem_append, not_or]
  exact ⟨uncommented_line indent (indent_uncommented indent blank), inner.1 text present⟩

theorem mentions_block (indent kind shown : String) (plain : Uncommented kind) (named : IsName shown)
    (lines names : List String) (blank : ∀ c ∈ indent.toList, c = ' ') (inner : Mentions lines names) :
    Mentions ((kind ++ shown ++ " \x7b") :: indentLines indent lines ++ ["\x7d"]) names := by
  have opening : Mentions [kind ++ shown ++ " \x7b"] [] :=
    mentions_uncommented _ fun line member => List.mem_singleton.mp member ▸ opening_uncommented kind shown plain named
  have closing : Mentions ["\x7d"] [] :=
    mentions_uncommented _ fun line member => List.mem_singleton.mp member ▸ by decide
  have deeper := mentions_indented indent blank lines names inner
  simpa using mentions_append _ _ _ _ (mentions_append _ _ _ _ opening deeper) closing

mutual
theorem block_mentions (layout : Layout) (indent : String) (blank : ∀ c ∈ indent.toList, c = ' ') (block : Block)
    (scope : List String) (printable : ∀ site ∈ block.sites scope, PrintableBlock layout site.block)
    (segmented : ∀ site ∈ block.sites scope, Segmented site.block.name) :
    Mentions (block.lines layout indent) (bareNames (block.sites scope)) := by
  cases block with
  | node definition shown nested =>
      have here := printable _ (block_site scope (.node definition shown nested))
      have named := segmented _ (block_site scope (.node definition shown nested))
      rw [Block.sites] at printable segmented ⊢
      have further := blocks_mentions layout indent blank nested (scope ++ [shown])
        (fun site inside => printable site (List.mem_cons_of_mem _ inside))
        (fun site inside => segmented site (List.mem_cons_of_mem _ inside))
      rw [Block.lines]
      cases form : formOf definition nested with
      | message =>
          have members : ∀ line ∈ definition.memberList.flatMap (memberLines layout indent definition.name),
              Uncommented line := by
            intro line member
            obtain ⟨inner, present, inside⟩ := List.mem_flatMap.mp member
            exact member_lines_uncommented layout definition.name indent blank inner (here.members inner present) line inside
          rw [bare_names_printed _ _ (by simp [Block.form, Block.definition, Block.nested, form])]
          exact mentions_block indent "message " shown (by decide) here.shown _ _ blank
            (mentions_append _ _ _ _ (mentions_uncommented _ members) further)
      | enum =>
          have values : ∀ line ∈ definition.values.map valueLine, Uncommented line := by
            intro line member
            obtain ⟨value, present, rfl⟩ := List.mem_map.mp member
            exact value_line_uncommented value (here.values value present)
          have alone := nested_nil definition nested (by simp [form])
          rw [bare_names_printed _ _ (by simp [Block.form, Block.definition, Block.nested, form]), alone]
          exact mentions_block indent "enum " shown (by decide) here.shown _ _ blank (mentions_uncommented _ values)
      | unknown =>
          have alone := nested_nil definition nested (by simp [form])
          have comment : '\n' ∉ ("// Unknown entity " ++ definition.name).toList := by
            rw [String.toList_append, List.mem_append, not_or]
            exact ⟨by decide, here.line⟩
          subst alone
          refine ⟨fun line member => List.mem_singleton.mp member ▸ comment, ?_⟩
          simp only [mentionedBy, List.filterMap_cons, comment_mentions definition.name named]
          simp [bareNames, Block.sitesOf, Block.form, Block.definition, Block.nested, Block.name, form]
theorem blocks_mentions (layout : Layout) (indent : String) (blank : ∀ c ∈ indent.toList, c = ' ') (blocks : List Block)
    (scope : List String) (printable : ∀ site ∈ Block.sitesOf scope blocks, PrintableBlock layout site.block)
    (segmented : ∀ site ∈ Block.sitesOf scope blocks, Segmented site.block.name) :
    Mentions (Block.linesOf layout indent blocks) (bareNames (Block.sitesOf scope blocks)) := by
  cases blocks with
  | nil => exact mentions_uncommented [] fun _ absent => absurd absent List.not_mem_nil
  | cons first rest =>
      rw [Block.sitesOf] at printable segmented ⊢
      rw [Block.linesOf, bare_names_append]
      refine mentions_append _ _ _ _ ?_ ?_
      · exact block_mentions layout indent blank first scope
          (fun site inside => printable site (List.mem_append_left _ inside))
          (fun site inside => segmented site (List.mem_append_left _ inside))
      · exact blocks_mentions layout indent blank rest scope
          (fun site inside => printable site (List.mem_append_right _ inside))
          (fun site inside => segmented site (List.mem_append_right _ inside))
end

theorem mentioned_top (layout : Layout) (indent : String) (blank : ∀ c ∈ indent.toList, c = ' ') (blocks : List Block)
    (printable : ∀ site ∈ Block.sitesOf [] blocks, PrintableBlock layout site.block)
    (segmented : ∀ site ∈ Block.sitesOf [] blocks, Segmented site.block.name) :
    mentioned (topText (blocks.map (Block.lines layout indent))) = bareNames (Block.sitesOf [] blocks) := by
  induction blocks with
  | nil => rfl
  | cons first rest ih =>
      rw [Block.sitesOf] at printable segmented ⊢
      have here := block_mentions layout indent blank first []
        (fun site inside => printable site (List.mem_append_left _ inside))
        (fun site inside => segmented site (List.mem_append_left _ inside))
      have later := ih (fun site inside => printable site (List.mem_append_right _ inside))
        (fun site inside => segmented site (List.mem_append_right _ inside))
      rw [bare_names_append, ← later, ← here.2]
      cases rest with
      | nil => simpa [topText] using mentioned_lines _ here.1 []
      | cons next rest =>
          rw [List.map_cons, List.map_cons, topText, mentioned_lines _ here.1, mentioned_empty_line]

theorem header_mentions (settings : Settings) (edition : Edition) (entities : Nat) (package : Dotted settings.package)
    (label : '\n' ∉ settings.clientLabel.toList) (version : '\n' ∉ edition.version.toList)
    (generatedOn : '\n' ∉ edition.generatedOn.toList) : Mentions (header settings edition entities) [] := by
  have slashed (text : String) (whole : '\n' ∉ text.toList) : Mentions ["/// " ++ text] [] := by
    refine ⟨fun line member => ?_, by simp [mentionedBy, unknownEntity?, entityMark, isIndentChar]⟩
    rw [List.mem_singleton.mp member, String.toList_append, List.mem_append, not_or]
    exact ⟨by decide, whole⟩
  have number : '\n' ∉ (Decimal.numeral entities).toList := uncommented_line _ (number_uncommented entities)
  have opening : Mentions ["syntax = \"proto3\";", "package " ++ settings.package ++ ";", ""] [] := by
    refine mentions_uncommented _ ?_
    simp only [List.forall_mem_cons, List.not_mem_nil, false_implies, implies_true, and_true, uncommented_append]
    exact ⟨by decide, ⟨⟨by decide, dotted_uncommented _ package⟩, by decide⟩, by decide⟩
  have labelled := slashed (settings.clientLabel ++ " Version: " ++ edition.version) (by simp [label, version])
  have dated := slashed ("Generated on: " ++ edition.generatedOn) (by simp [generatedOn])
  have counted := slashed ("Entities found: " ++ Decimal.numeral entities) (by simp [number])
  have closing : Mentions [""] [] := mentions_uncommented _ (by decide)
  have whole := mentions_append _ _ _ _ opening (mentions_append _ _ _ _ labelled
    (mentions_append _ _ _ _ dated (mentions_append _ _ _ _ counted closing)))
  simpa [header, ← String.append_assoc] using whole

theorem document_mentions (settings : Settings) (edition : Edition) (catalog : Catalog)
    (writable : Writable settings edition catalog) :
    mentioned (Document.ofCatalog settings edition catalog).text.toList =
      (Layout.ofCatalog catalog).bare.map (·.block.name) := by
  have placed (site : Site) (member : site ∈ Block.sitesOf [] (Layout.ofCatalog catalog).blocks) :
      PrintableBlock (Layout.ofCatalog catalog) site.block ∧ Segmented site.block.name := by
    obtain ⟨placement, present, same⟩ := layout_site catalog writable.spelled site member
    refine ⟨same ▸ placement_printable settings edition catalog writable placement present, ?_⟩
    rw [same, block_of_name]
    exact (placement_shown catalog writable.spelled placement present).1
  have head := header_mentions settings edition (Layout.ofCatalog catalog).blocks.length writable.package writable.label
    writable.version writable.generatedOn
  have body := mentioned_top (Layout.ofCatalog catalog) settings.indent (settings_indent_blank settings)
    (Layout.ofCatalog catalog).blocks (fun site member => (placed site member).1) fun site member => (placed site member).2
  rw [Document.ofCatalog, document_chars, mentioned_lines _ head.1, head.2, body]
  rfl

end SchemaRecovery.Proto
