import SchemaRecovery.Proofs.Layout.FullName
import SchemaRecovery.Proofs.Schema.Segments

set_option autoImplicit false

namespace SchemaRecovery.Proto

open Schema (Catalog Definition Field IsName Segmented Textual isNameText not_in_name shown_inside short_name
  segmented_nesting_path textual_enclosing)

def typeNames (field : Field) : List String :=
  match field.type, field.mapTypes with
  | none, _ => []
  | some _, some (key, value) => [key, value]
  | some type, none => [type]

theorem printed_types_eq (layout : Layout) (message : String) (field : Field) :
    printedTypes layout message field =
      if field.type.isNone then [unresolvedType] else (typeNames field).map (layout.reference · message) := by
  unfold printedTypes typeNames
  cases field.type with
  | none => rfl
  | some type =>
      cases field.mapTypes with
      | none => rfl
      | some types => rfl

def Dotted (text : String) : Prop :=
  ∃ parts : List String, parts ≠ [] ∧ (∀ part ∈ parts, IsName part) ∧ text = String.intercalate "." parts

theorem dotted_snoc (outer part : String) (dotted : Dotted outer) (named : IsName part) :
    Dotted (outer ++ "." ++ part) := by
  obtain ⟨parts, some, each, rfl⟩ := dotted
  refine ⟨parts ++ [part], by simp, ?_, ?_⟩
  · intro other member
    rcases List.mem_append.mp member with before | last
    · exact each other before
    · exact List.mem_singleton.mp last ▸ named
  · rw [String.intercalate_append_of_ne_nil some (List.cons_ne_nil _ _), String.intercalate_singleton]

theorem dotted_single (part : String) (named : IsName part) : Dotted part :=
  ⟨[part], List.cons_ne_nil _ _, by simpa using named, (String.intercalate_singleton).symm⟩

theorem dot_segment (segment : List Char) (named : isNameText segment) :
    segment.map (fun c => if c = Schema.Name.separator then '.' else c) = segment := by
  have whole := not_in_name segment named Schema.Name.separator (by decide)
  rw [List.map_congr_left (g := id), List.map_id]
  intro c member
  have other : c ≠ Schema.Name.separator := fun same => whole (same ▸ member)
  rw [if_neg other, id]

theorem dot_join (segments : List (List Char)) (some : segments ≠ []) (named : ∀ segment ∈ segments, isNameText segment) :
    String.ofList ((Schema.Name.joinSegments segments).map fun c => if c = Schema.Name.separator then '.' else c) =
      String.intercalate "." (segments.map String.ofList) := by
  induction segments with
  | nil => exact absurd rfl some
  | cons segment rest ih =>
      have first := dot_segment segment (named segment List.mem_cons_self)
      cases rest with
      | nil => rw [Schema.Name.joinSegments, first, List.map_singleton, String.intercalate_singleton]
      | cons next rest =>
          have further := ih (List.cons_ne_nil _ _) fun other member => named other (List.mem_cons_of_mem _ member)
          rw [Schema.Name.joinSegments, List.map_append, List.map_cons, if_pos rfl, first, String.ofList_append,
            ← List.singleton_append, String.ofList_append, further]
          · simp [String.intercalate_cons_cons, String.append_assoc]
          · exact List.cons_ne_nil _ _

theorem dotted_segments (name : String) (named : Segmented name) : Dotted (Schema.Name.dotted name) := by
  have whole : Schema.Name.joinSegments (Schema.Name.segments name) = name.toList := Schema.Name.join_split _
  refine ⟨(Schema.Name.segments name).map String.ofList, ?_, ?_, ?_⟩
  · simp [Schema.Name.segments, Schema.Name.split_segments_nonempty]
  · intro part member
    obtain ⟨segment, present, rfl⟩ := List.mem_map.mp member
    simpa [IsName] using named segment present
  · rw [Schema.Name.dotted, ← whole]
    exact dot_join _ (Schema.Name.split_segments_nonempty _) named

structure Spelled (catalog : Catalog) : Prop where
  named : ∀ definition ∈ catalog.definitions, Segmented definition.name
  textual : Textual catalog.nesting

section
variable (catalog : Catalog) (spelled : Spelled catalog)
include spelled

theorem spelled_rooted : Rooted catalog := by
  refine textual_rooted catalog (fun definition member empty => ?_) spelled.textual
  exact absurd (spelled.named definition member [] (by simp [empty, Schema.Name.segments, Schema.Name.splitSegments]))
    (by decide)

theorem placed_segmented (name : String) (placed : name ∈ placedNames catalog) : Segmented name := by
  obtain ⟨inner, ⟨definition, member, rfl⟩, onWay⟩ :=
    (mem_placed_names catalog (spelled_rooted catalog spelled) name).mp placed
  have first := spelled.named definition member
  clear placed
  rcases onWay with rfl | around
  · exact first
  · induction around with
    | single next =>
        obtain ⟨rfl, nested⟩ := next
        rw [textual_enclosing _ spelled.textual] at nested ⊢
        exact segmented_nesting_path _ first nested
    | tail _ next ih =>
        obtain ⟨rfl, nested⟩ := next
        rw [textual_enclosing _ spelled.textual] at nested ⊢
        exact segmented_nesting_path _ ih nested

theorem placement_shown (placement : Placement) (member : placement ∈ (Layout.ofCatalog catalog).placements) :
    Segmented placement.name ∧
      Schema.Name.shownInside placement.name placement.parent = Schema.Name.short placement.name := by
  rw [placements_eq] at member
  obtain ⟨name, placed, rfl⟩ := List.mem_map.mp member
  have segmented := placed_segmented catalog spelled name placed
  rw [place_name_name]
  refine ⟨segmented, shown_inside name _ segmented ?_⟩
  rw [place_name_parent, textual_enclosing _ spelled.textual]
  split
  · exact .inl rfl
  · exact .inr rfl

theorem path_names (name : String) (path : List String)
    (way : PathTo (Layout.ofCatalog catalog).placements name path) : ∀ part ∈ path, IsName part := by
  induction way with
  | top placement member _ =>
      obtain ⟨segmented, shown⟩ := placement_shown catalog spelled placement member
      intro part here
      rw [List.mem_singleton.mp here, shown]
      exact short_name _ segmented
  | inside placement path member _ ih =>
      obtain ⟨segmented, shown⟩ := placement_shown catalog spelled placement member
      intro part here
      rcases List.mem_append.mp here with before | last
      · exact ih part before
      · rw [List.mem_singleton.mp last, shown]
        exact short_name _ segmented

theorem reference_dotted (type message : String) (segmented : Segmented type) :
    Dotted ((Layout.ofCatalog catalog).reference type message) := by
  have short := short_name type segmented
  cases known : (Layout.ofCatalog catalog).parent? type with
  | none =>
      rw [Layout.reference, known]
      simp only [Schema.Name.reference]
      split
      · rename_i nested
        exact dotted_snoc _ _ (dotted_segments _ (segmented_nesting_path type segmented nested.1)) short
      · exact dotted_single _ short
  | some parent =>
      have arranged := layout_arranged catalog (spelled_rooted catalog spelled)
      rw [Layout.parent?, Option.map_eq_some_iff] at known
      obtain ⟨placement, found, rfl⟩ := known
      have member := List.mem_of_find?_eq_some found
      have same : placement.name = type := by simpa using List.find?_some found
      subst same
      have shown := (placement_shown catalog spelled placement member).2
      rw [Layout.reference, Layout.parent?, found, Option.map_some]
      simp only [shown]
      split
      · exact dotted_single _ short
      · rename_i elsewhere
        rw [not_or] at elsewhere
        obtain ⟨path, way⟩ := path_to_exists _ arranged placement member
        rcases path_to_cases _ arranged placement member path way with ⟨outermost, _⟩ | ⟨outer, around, _⟩
        · exact absurd outermost elsewhere.1
        · rw [Layout.printedPath, printed_path_eq _ arranged _ outer around]
          exact dotted_snoc _ _ ⟨outer, path_to_ne_nil _ _ _ around, path_names catalog spelled _ outer around, rfl⟩ short

end

end SchemaRecovery.Proto
