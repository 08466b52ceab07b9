import SchemaRecovery.Proofs.Check.Issues
import SchemaRecovery.Proofs.Reading.Document

set_option autoImplicit false

namespace SchemaRecovery.Proto

open Schema (Catalog Definition Field IsName Member Segmented)

theorem no_syntax_error_iff_read (text : String) :
    (∀ issue ∈ check text, issue.kind ≠ "syntax_error") ↔ ∃ declarations, read text = .ok declarations := by
  have comments : ∀ issue ∈ unknownEntities text, issue.kind ≠ "syntax_error" := by
    intro issue member
    rw [unknown_entities_kind text issue member]
    decide
  rw [check, List.forall_mem_append]
  cases result : read text with
  | error fault => simp [Defect.at, Defect.kind]
  | ok declarations =>
      have fields : ∀ issue ∈ messagesIssues (declaredInAll [] declarations) [] declarations,
          issue.kind ≠ "syntax_error" := by
        intro issue member
        exact ne_of_mem_of_not_mem (messages_issue_kind _ [] declarations issue member) (by decide)
      exact ⟨fun _ => ⟨declarations, rfl⟩, fun _ => ⟨comments, fields⟩⟩

structure SpelledField (field : Field) : Prop where
  named : IsName field.name
  numbered : ∃ n : Nat, field.id = some (n : Int)
  types : ∀ type ∈ typeNames field, Segmented type

def SpelledMember : Member → Prop
  | .field single => SpelledField single
  | .oneof group => IsName group.name ∧ ∀ field ∈ group.members, SpelledField field

structure Lettered (settings : Settings) (edition : Edition) (catalog : Catalog) : Prop where
  -- Every name of a catalog and of its document is written as a name. Any member may stand in a
  -- group.
  spelled : Spelled catalog
  members : ∀ definition ∈ catalog.definitions, ∀ member ∈ definition.memberList, SpelledMember member
  values : ∀ definition ∈ catalog.definitions, ∀ value ∈ definition.values, IsName value.name
  package : Dotted settings.package
  label : '\n' ∉ settings.clientLabel.toList
  version : '\n' ∉ edition.version.toList
  generatedOn : '\n' ∉ edition.generatedOn.toList

section
variable (settings : Settings) (edition : Edition) (catalog : Catalog) (lettered : Lettered settings edition catalog)
include lettered

theorem spelled_field_lettered (message : String) (field : Field) (spelled : SpelledField field) :
    LetteredField (Layout.ofCatalog catalog) message field :=
  ⟨spelled.named, spelled.numbered, printed_dotted catalog lettered.spelled message field spelled.types⟩

theorem site_lettered (site : Site) (member : site ∈ Block.sitesOf [] (Layout.ofCatalog catalog).blocks) :
    LetteredBlock (Layout.ofCatalog catalog) site.block := by
  obtain ⟨placement, present, same⟩ := layout_site catalog lettered.spelled site member
  obtain ⟨segmented, shown⟩ := placement_shown catalog lettered.spelled placement present
  have filled := placement_filled catalog placement present
  rw [same]
  refine ⟨?_, Schema.segmented_line _ segmented, ?_, ?_⟩
  · rw [blockOf, Block.shown, shown]
    exact Schema.short_name _ segmented
  · intro inner inside
    have spelled := lettered.members _ (filled (.inl (List.ne_nil_of_mem inside))) inner inside
    cases inner with
    | field single => exact spelled_field_lettered settings edition catalog lettered _ single spelled
    | oneof group =>
        exact ⟨spelled.1, fun field own =>
          spelled_field_lettered settings edition catalog lettered _ field (spelled.2 field own)⟩
  · intro value inside
    exact lettered.values _ (filled (.inr (List.ne_nil_of_mem inside))) value inside

def Layout.IsLegible (layout : Layout) : Prop :=
  ∀ site ∈ Block.sitesOf [] layout.blocks, LegibleBlock layout site.block

theorem read_outcome (outcome : Outcome)
    (further : (Layout.ofCatalog catalog).IsLegible →
      outcome (.ok (topDeclarations (Layout.ofCatalog catalog) 8 (Layout.ofCatalog catalog).blocks)))
    (refused : ¬ (Layout.ofCatalog catalog).IsLegible → outcome.Faulty) :
    outcome (read (Document.ofCatalog settings edition catalog).text) := by
  have body := reads_top (Layout.ofCatalog catalog) settings outcome (Layout.ofCatalog catalog).blocks
    (site_lettered settings edition catalog lettered) .top (.inl rfl) [] 8 further refused
  have whole := reads_header settings edition outcome (Layout.ofCatalog catalog).blocks.length lettered.package
    lettered.label lettered.version lettered.generatedOn _ body
  rw [read, Source.ofText, Document.ofCatalog, document_chars]
  exact whole Place.start 1

theorem document_refused (illegible : ¬ (Layout.ofCatalog catalog).IsLegible) :
    ∃ fault, read (Document.ofCatalog settings edition catalog).text = .error fault :=
  read_outcome settings edition catalog lettered (fun given => ∃ fault, given = .error fault)
    (fun legible => absurd legible illegible) fun _ fault => ⟨fault, rfl⟩

theorem syntax_error_free_iff :
    (∀ issue ∈ check (Document.ofCatalog settings edition catalog).text, issue.kind ≠ "syntax_error") ↔
      ∀ site ∈ Block.sitesOf [] (Layout.ofCatalog catalog).blocks, ∀ member ∈ site.block.definition.memberList,
        LegibleMember (Layout.ofCatalog catalog) site.block.name member := by
  rw [no_syntax_error_iff_read]
  constructor
  · rintro ⟨declarations, given⟩
    refine Classical.byContradiction fun illegible => ?_
    obtain ⟨fault, refused⟩ := document_refused settings edition catalog lettered illegible
    rw [given] at refused
    cases refused
  · intro legible
    exact read_outcome settings edition catalog lettered (fun given => ∃ declarations, given = .ok declarations)
      (fun _ => ⟨_, rfl⟩) fun illegible => absurd legible illegible

end

def oneMessage (members : List Member) : Definition := { name := "Single", members := some members }

def singleMessage (members : List Member) : Catalog where
  modules := [⟨"Singles", .leaf .empty, [], [oneMessage members]⟩]

theorem single_placed (members : List Member) : placedNames (singleMessage members) = ["Single"] := by
  have ways : placedNames (singleMessage members) = ([["Single"]].flatMap List.reverse).eraseDups := by
    refine placed_names_eq (singleMessage members) ["Single"] _ (by decide) ?_ (.cons (.top _ (by rfl)) .nil)
    intro name
    simp [Defined, Catalog.definitions, singleMessage, oneMessage, eq_comm]
  rw [ways]
  decide

theorem single_sites (members : List Member) : Block.sitesOf [] (Layout.ofCatalog (singleMessage members)).blocks =
    [⟨["Single"], .node (oneMessage members) "Single" []⟩] := by
  have shown : Schema.Name.shownInside "Single" "" = "Single" := by decide
  rw [Layout.blocks, placements_eq, single_placed]
  change Block.sitesOf [] [.node (oneMessage members) (Schema.Name.shownInside "Single" "") []] = _
  rw [shown]
  rfl

theorem single_reference (members : List Member) (type : String) (simple : type ∈ ["message", "enum", "string", "int32"]) :
    (Layout.ofCatalog (singleMessage members)).reference type "Single" = type := by
  rw [Layout.reference, parent_of_catalog, single_placed]
  simp only [List.mem_cons, List.not_mem_nil, or_false] at simple
  rcases simple with rfl | rfl | rfl | rfl <;> rfl

theorem single_lettered (members : List Member) (spelled : ∀ member ∈ members, SpelledMember member) :
    Lettered {} ⟨"2.3000", "2024-01-31T12:00:00.000Z"⟩ (singleMessage members) where
  spelled := ⟨by simp [Catalog.definitions, singleMessage, oneMessage]; decide, Schema.textual_empty⟩
  members := by simpa [Catalog.definitions, singleMessage, oneMessage, Definition.memberList] using spelled
  values := by simp [Catalog.definitions, singleMessage, oneMessage, Definition.values]
  package := dotted_single _ (by decide)
  label := by decide
  version := by decide
  generatedOn := by decide

-- Behind a label, and first in a group, a type may be named by a word that begins a definition
-- elsewhere.
def worded : List Member := [
  .field { name := "all", id := some 1, type := some "message", flags := ["repeated"] },
  .oneof ⟨"choice", [{ name := "kind", id := some 2, type := some "enum" }]⟩]

theorem syntax_error_free_worded :
    Lettered {} ⟨"2.3000", "2024-01-31T12:00:00.000Z"⟩ (singleMessage worded) ∧
      ∀ issue ∈ check (Document.ofCatalog {} ⟨"2.3000", "2024-01-31T12:00:00.000Z"⟩ (singleMessage worded)).text,
        issue.kind ≠ "syntax_error" := by
  have lettered : Lettered {} ⟨"2.3000", "2024-01-31T12:00:00.000Z"⟩ (singleMessage worded) := by
    refine single_lettered worded ?_
    simp only [worded, List.forall_mem_cons, List.not_mem_nil, false_implies, implies_true, and_true]
    refine ⟨⟨by decide, ⟨1, rfl⟩, by decide⟩, by decide, ?_⟩
    simp only [List.forall_mem_cons, List.not_mem_nil, false_implies, implies_true, and_true]
    exact ⟨by decide, ⟨2, rfl⟩, by decide⟩
  refine ⟨lettered, (syntax_error_free_iff {} _ (singleMessage worded) lettered).mpr ?_⟩
  have kind := single_reference worded "enum" (by decide)
  rw [single_sites]
  intro site member inner inside
  rw [List.mem_singleton.mp member] at inside ⊢
  have both : inner ∈ worded := inside
  simp only [worded, List.mem_cons, List.not_mem_nil, or_false] at both
  rcases both with rfl | rfl
  · refine ⟨fun unlabelled => absurd unlabelled (by decide), fun grouped => ?_⟩
    cases grouped
  · refine ⟨⟨fun _ type printed => ?_, fun _ key value printed => ?_⟩, trivial⟩
    · cases printed
      change ∀ word ∈ Spot.opensGroup.words,
        firstPart ((Layout.ofCatalog (singleMessage worded)).reference "enum" "Single") ≠ word.spelling.toList
      rw [kind]
      decide
    · cases printed

def grouped : List Member := [
  .oneof ⟨"choice", [{ name := "kinds", id := some 1, type := some "map", mapTypes := some ("string", "int32") }]⟩]

theorem grouped_map_refused :
    Lettered {} ⟨"2.3000", "2024-01-31T12:00:00.000Z"⟩ (singleMessage grouped) ∧
      ∃ issue ∈ check (Document.ofCatalog {} ⟨"2.3000", "2024-01-31T12:00:00.000Z"⟩ (singleMessage grouped)).text,
        issue.kind = "syntax_error" := by
  have lettered : Lettered {} ⟨"2.3000", "2024-01-31T12:00:00.000Z"⟩ (singleMessage grouped) := by
    refine single_lettered grouped ?_
    simp only [grouped, List.forall_mem_cons, List.not_mem_nil, false_implies, implies_true, and_true]
    refine ⟨by decide, ?_⟩
    simp only [List.forall_mem_cons, List.not_mem_nil, false_implies, implies_true, and_true]
    exact ⟨by decide, ⟨1, rfl⟩, by decide⟩
  refine ⟨lettered, ?_⟩
  have illegible : ¬ (Layout.ofCatalog (singleMessage grouped)).IsLegible := by
    intro legible
    rw [Layout.IsLegible, single_sites] at legible
    have field := (legible _ List.mem_cons_self _ List.mem_cons_self).1
    exact field.single rfl _ _ rfl
  obtain ⟨fault, refused⟩ := document_refused {} _ (singleMessage grouped) lettered illegible
  refine ⟨(Defect.syntaxError fault).at fault.place.line, ?_, rfl⟩
  rw [check, refused]
  exact List.mem_append_right _ List.mem_cons_self

end SchemaRecovery.Proto
