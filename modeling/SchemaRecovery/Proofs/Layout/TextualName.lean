import SchemaRecovery.Proofs.Layout.FullName
import SchemaRecovery.Proofs.Schema.Path

set_option autoImplicit false

namespace SchemaRecovery.Schema

open Name (separator segments nestingPath short shownInside dotted)

abbrev Headed (name : String) : Prop := name ≠ "" ∧ name.toList.head? ≠ some separator

theorem headed_path (path name : String) (way : PathOf path name) (headed : Headed name) (nested : path ≠ "") :
    Headed path := by
  cases way with
  | outermost => exact absurd rfl nested
  | nested path last _ =>
      have present : path.toList ≠ [] := by simpa using nested
      refine ⟨nested, ?_⟩
      simpa [List.head?_append_of_ne_nil _ present] using headed.2

theorem path_prefix (path name : String) (way : PathOf path name) : path.toList <+: name.toList := by
  cases way with
  | outermost => exact List.nil_prefix
  | nested path last _ => exact ⟨("$" ++ last).toList, by simp⟩

theorem headed_outermost (name : String) (way : PathOf "" name) (headed : Headed name) : separator ∉ name.toList := by
  cases way with
  | outermost _ whole => exact whole
  | nested _ last _ => exact absurd (by simp [separator]) headed.2

theorem short_whole (name : String) (whole : separator ∉ name.toList) : short name = name := by
  rw [short, segments, split_whole _ whole]
  exact String.ofList_toList

theorem short_snoc (path last : String) (whole : separator ∉ last.toList) : short (path ++ "$" ++ last) = last := by
  rw [short, segments_snoc path last whole, List.getLastD_concat, String.ofList_toList]

theorem dotted_whole (name : String) (whole : separator ∉ name.toList) : dotted name = name := by
  have kept : (name.toList.map fun c => if c = separator then '.' else c) = name.toList := by
    refine (List.map_congr_left fun c member => ?_).trans name.toList.map_id
    have plain : c ≠ separator := fun mark => whole (mark ▸ member)
    rw [if_neg plain, id]
  rw [dotted, kept, String.ofList_toList]

theorem dotted_append (first rest : String) : dotted (first ++ rest) = dotted first ++ dotted rest := by
  simp [dotted]

theorem dotted_path (path name : String) (way : PathOf path name) (headed : Headed name) :
    dotted name = if path = "" then short name else dotted path ++ "." ++ short name := by
  by_cases top : path = ""
  · have whole := headed_outermost name (top ▸ way) headed
    rw [if_pos top, short_whole name whole, dotted_whole name whole]
  · cases way with
    | outermost => exact absurd rfl top
    | nested path last whole =>
        have mark : dotted "$" = "." := by decide
        rw [if_neg top, short_snoc path last whole, dotted_append, dotted_append, mark, dotted_whole last whole]

theorem dotted_injective (a b : String) (left : '.' ∉ a.toList) (right : '.' ∉ b.toList)
    (same : dotted a = dotted b) : a = b := by
  have back (name : String) (undotted : '.' ∉ name.toList) :
      (dotted name).toList.map (fun c => if c = '.' then separator else c) = name.toList := by
    rw [dotted, String.toList_ofList, List.map_map]
    refine (List.map_congr_left fun c member => ?_).trans name.toList.map_id
    have plain : c ≠ '.' := fun dot => undotted (dot ▸ member)
    by_cases mark : c = separator <;> simp [mark, plain]
  rw [← String.toList_inj, ← back a left, ← back b right, same]

end SchemaRecovery.Schema

namespace SchemaRecovery.Proto

open Schema (Catalog Headed PathOf Textual path_of_iff path_prefix)
open Schema.Name (separator nestingPath short shownInside dotted)

structure Prefixed (catalog : Catalog) : Prop where
  headed : ∀ definition ∈ catalog.definitions, Headed definition.name
  textual : Textual catalog.nesting

structure Unmoved (catalog : Catalog) (name : String) : Prop where
  placed : ((Layout.ofCatalog catalog).parent? name).isSome
  free : ∀ definition ∈ catalog.byName, definition.isEnum → ¬ definition.name.toList ++ [separator] <+: name.toList

section
variable (catalog : Catalog) (prefixed : Prefixed catalog)
include prefixed

theorem prefixed_rooted : Rooted catalog :=
  textual_rooted catalog (fun definition member => (prefixed.headed definition member).1) prefixed.textual

theorem placed_headed (name : String) (placed : name ∈ placedNames catalog) : Headed name := by
  have step (inner outer : String) (headed : Headed inner) (next : DirectlyAround catalog.nesting inner outer) :
      Headed outer := by
    obtain ⟨around, nested⟩ := next
    rw [Schema.textual_enclosing _ prefixed.textual] at around
    exact Schema.headed_path outer inner ((path_of_iff _ _).mpr around) headed nested
  obtain ⟨inner, ⟨definition, member, rfl⟩, onWay⟩ :=
    (mem_placed_names catalog (prefixed_rooted catalog prefixed) name).mp placed
  have start := prefixed.headed definition member
  clear placed
  rcases onWay with rfl | around
  · exact start
  · induction around with
    | single next => exact step _ _ start next
    | tail _ next ih => exact step _ _ ih next

theorem unmoved_headed (name : String) (unmoved : Unmoved catalog name) : Headed name :=
  placed_headed catalog prefixed name ((parent_is_some_iff catalog name).mp unmoved.placed)

omit prefixed in
theorem unmoved_outer (name : String) (unmoved : Unmoved catalog name) (outer : String) (way : PathOf outer name)
    (nested : outer ≠ "") : (findNamed catalog.byName outer).any (·.isEnum) = false := by
  cases way with
  | outermost => exact absurd rfl nested
  | nested outer last _ =>
      cases found : findNamed catalog.byName outer with
      | none => rfl
      | some definition =>
          have named : definition.name = outer := by simpa using List.find?_some found
          have first : definition.name.toList ++ [separator] <+: (outer ++ "$" ++ last).toList :=
            ⟨last.toList, by simp [named, separator]⟩
          have plain := mt (unmoved.free definition (List.mem_of_find?_eq_some found)) (not_not_intro first)
          simpa using plain

theorem unmoved_parent (name : String) (unmoved : Unmoved catalog name) :
    (Layout.ofCatalog catalog).parent? name = some (nestingPath name) := by
  refine (parent_some_iff catalog name _).mpr ⟨(parent_is_some_iff catalog name).mp unmoved.placed, ?_⟩
  rw [place_name_parent, Schema.textual_enclosing _ prefixed.textual]
  by_cases top : nestingPath name = ""
  · rw [top, ite_self]
  · rw [unmoved_outer catalog name unmoved _ ((path_of_iff _ name).mpr rfl) top, if_neg Bool.false_ne_true]

theorem unmoved_path (name : String) (unmoved : Unmoved catalog name) (nested : nestingPath name ≠ "") :
    Unmoved catalog (nestingPath name) := by
  have around := Schema.textual_enclosing _ prefixed.textual name
  have placed := (parent_is_some_iff catalog name).mp unmoved.placed
  have outer := enclosing_placed catalog (prefixed_rooted catalog prefixed) name placed (around ▸ nested)
  have inside : (nestingPath name).toList <+: name.toList := path_prefix _ name ((path_of_iff _ name).mpr rfl)
  exact ⟨(parent_is_some_iff catalog _).mpr (around ▸ outer), fun definition member values before =>
    unmoved.free definition member values (before.trans inside)⟩

theorem printed_path_unmoved (name : String) (unmoved : Unmoved catalog name) :
    (Layout.ofCatalog catalog).printedPath name =
      if nestingPath name = "" then short name
      else (Layout.ofCatalog catalog).printedPath (nestingPath name) ++ "." ++ short name := by
  have rooted := prefixed_rooted catalog prefixed
  have headed := unmoved_headed catalog prefixed name unmoved
  obtain ⟨placed, parent⟩ := (parent_some_iff catalog name _).mp (unmoved_parent catalog prefixed name unmoved)
  have member : placeName catalog.byName catalog.nesting name ∈ (Layout.ofCatalog catalog).placements :=
    placements_eq catalog ▸ List.mem_map_of_mem placed
  have step := printed_path_step _ (layout_arranged catalog rooted) _ member
  rw [place_name_name, parent, Schema.shown_inside_path name _ headed.2 (.inr rfl)] at step
  exact step

theorem printed_path_dotted (name : String) (unmoved : Unmoved catalog name) :
    (Layout.ofCatalog catalog).printedPath name = dotted name := by
  induction bound : name.length using Nat.strongRecOn generalizing name with
  | _ size ih =>
      have way := (path_of_iff _ name).mpr rfl
      have headed := unmoved_headed catalog prefixed name unmoved
      rw [printed_path_unmoved catalog prefixed name unmoved, Schema.dotted_path _ name way headed]
      by_cases top : nestingPath name = ""
      · rw [if_pos top, if_pos top]
      · have shorter := Schema.Name.nesting_path_shorter top
        have outer := unmoved_path catalog prefixed name unmoved top
        rw [if_neg top, if_neg top, ih _ (bound ▸ shorter) (nestingPath name) outer rfl]

theorem reference_unmoved (name message : String) (unmoved : Unmoved catalog name) :
    (Layout.ofCatalog catalog).reference name message = Schema.Name.reference name (nestingPath name) message := by
  have headed := unmoved_headed catalog prefixed name unmoved
  rw [Layout.reference, unmoved_parent catalog prefixed name unmoved, Schema.Name.reference]
  simp only [Schema.shown_inside_path name _ headed.2 (.inr rfl)]
  by_cases near : nestingPath name = "" ∨ nestingPath name = message
  · rw [if_pos near, if_neg fun far => near.elim far.1 far.2]
  · rw [not_or] at near
    rw [if_neg (not_or.mpr near), if_pos near,
      printed_path_dotted catalog prefixed _ (unmoved_path catalog prefixed name unmoved near.1)]

/-- The blocks and the segments name a type alike, so that names without dots are printed apart. -/
theorem textual_names_agree :
    (∀ type, Unmoved catalog type →
      (Layout.ofCatalog catalog).printedPath type = dotted type ∧
        ∀ message, (Layout.ofCatalog catalog).reference type message =
          Schema.Name.reference type (nestingPath type) message) ∧
      ∀ a b, Unmoved catalog a → Unmoved catalog b → '.' ∉ a.toList → '.' ∉ b.toList →
        (Layout.ofCatalog catalog).printedPath a = (Layout.ofCatalog catalog).printedPath b → a = b := by
  refine ⟨fun type unmoved => ⟨printed_path_dotted catalog prefixed type unmoved, fun message =>
    reference_unmoved catalog prefixed type message unmoved⟩, fun a b left right plainLeft plainRight same => ?_⟩
  rw [printed_path_dotted catalog prefixed a left, printed_path_dotted catalog prefixed b right] at same
  exact Schema.dotted_injective a b plainLeft plainRight same

end

def climbed : Catalog where
  modules := [{
    name := "Climbed"
    statement := .leaf .empty
    definitions := [
      { name := "Ghost$Middle$Leaf", members := some [] }, { name := "Kind", enumValues := some [⟨"A", 0⟩] },
      { name := "Kind$Extra", members := some [] }, { name := "Shell" },
      { name := "Shell$Part", members := some [] }] }]
  nesting := ["Ghost$Middle$Leaf", "Kind", "Kind$Extra", "Shell", "Shell$Part"].foldl
    (fun nesting key => nesting.register key (nestingPath key)) {}

theorem climbed_prefixed : Prefixed climbed where
  headed := by decide
  textual := Recovery.textual_register_all {} _ Schema.textual_empty

theorem climbed_unmoved (name : String) (defined : name ∈ climbed.definitions.map (·.name))
    (free : ∀ definition ∈ climbed.byName, definition.isEnum → ¬ definition.name.toList ++ [separator] <+: name.toList) :
    Unmoved climbed name := by
  have rooted := prefixed_rooted climbed climbed_prefixed
  have placed := (placed_iff_defined_or_synthesized climbed rooted name).mpr (.inl (List.mem_map.mp defined))
  exact ⟨(parent_is_some_iff climbed name).mpr placed, free⟩

theorem textual_names_agree_climbed :
    Prefixed climbed ∧ Unmoved climbed "Ghost$Middle$Leaf" ∧ Unmoved climbed "Shell$Part" ∧
      (Layout.ofCatalog climbed).printedPath "Ghost$Middle$Leaf" = "Ghost.Middle.Leaf" ∧
      (Layout.ofCatalog climbed).reference "Shell$Part" "Shell" = "Part" ∧
      (Layout.ofCatalog climbed).reference "Shell$Part" "Ghost$Middle$Leaf" = "Shell.Part" ∧
      (Layout.ofCatalog climbed).printedPath "Ghost$Middle$Leaf" ≠ (Layout.ofCatalog climbed).printedPath "Shell$Part" := by
  have leaf : Unmoved climbed "Ghost$Middle$Leaf" := climbed_unmoved _ (by decide) (by decide)
  have part : Unmoved climbed "Shell$Part" := climbed_unmoved _ (by decide) (by decide)
  obtain ⟨agree, apart⟩ := textual_names_agree climbed climbed_prefixed
  refine ⟨climbed_prefixed, leaf, part, ?_, ?_, ?_, fun same => ?_⟩
  · rw [(agree _ leaf).1]
    decide
  · rw [(agree _ part).2]
    decide
  · rw [(agree _ part).2]
    decide
  · exact absurd (apart _ _ leaf part (by decide) (by decide) same) (by decide)

end SchemaRecovery.Proto
