import SchemaRecovery.Proofs.Layout.Order
import SchemaRecovery.Proofs.Schema.Nesting

set_option autoImplicit false

namespace SchemaRecovery.Proto

open Schema (Catalog Definition Nesting Warning Textual)

def catalogNames (catalog : Catalog) : List String := Schema.sortedNames (catalog.byName.map (·.name))

def placedNames (catalog : Catalog) : List String :=
  ((catalogNames catalog).map (outward catalog.nesting.paths)).flatMap List.reverse |>.eraseDups

def Defined (catalog : Catalog) (name : String) : Prop :=
  ∃ definition ∈ catalog.definitions, definition.name = name

structure Rooted (catalog : Catalog) : Prop where
  named : ∀ definition ∈ catalog.definitions, definition.name ≠ ""
  reaches : ∀ definition ∈ catalog.definitions, ReachesTop catalog.nesting definition.name

theorem textual_rooted (catalog : Catalog) (named : ∀ definition ∈ catalog.definitions, definition.name ≠ "")
    (textual : Textual catalog.nesting) : Rooted catalog :=
  ⟨named, fun definition _ => Schema.textual_reaches_top catalog.nesting textual definition.name⟩

theorem mem_catalog_names (catalog : Catalog) (name : String) : name ∈ catalogNames catalog ↔ Defined catalog name := by
  rw [catalogNames, Schema.mem_sorted_names, Schema.mem_by_name_names]
  rfl

theorem placements_eq (catalog : Catalog) :
    (Layout.ofCatalog catalog).placements = (placedNames catalog).map (placeName catalog.byName catalog.nesting) := rfl

theorem single_layout (catalog : Catalog) (definition : Definition) (single : catalog.byName = [definition])
    (outermost : stepOut catalog.nesting.paths definition.name = none) :
    Layout.ofCatalog catalog = ⟨[placeName [definition] catalog.nesting definition.name], []⟩ := by
  have way := outward_outermost catalog.nesting.paths definition.name outermost
  simp [Layout.ofCatalog, single, Schema.sortedNames, way, findNamed, List.eraseDups_cons]

theorem placement_names (catalog : Catalog) :
    (Layout.ofCatalog catalog).placements.map (·.name) = placedNames catalog := by
  simp [placements_eq, Function.comp_def]

theorem placed_names_nodup (catalog : Catalog) : (placedNames catalog).Nodup :=
  Schema.erase_dups_nodup _

theorem find_named_defined (catalog : Catalog) (name : String) :
    findNamed catalog.byName name = none ↔ ¬ Defined catalog name := by
  rw [find_named_none, Schema.mem_by_name_names]
  rfl

theorem placed_names_eq (catalog : Catalog) (names : List String) (ways : List (List String))
    (ascending : names.Pairwise (· < ·))
    (complete : ∀ name, name ∈ names ↔ Defined catalog name)
    (out : List.Forall₂ (WayOut catalog.nesting) names ways) :
    placedNames catalog = (ways.flatMap List.reverse).eraseDups := by
  have sorted : catalogNames catalog = names :=
    Schema.ascending_unique _ _ (Schema.sorted_names_strict _) ascending fun name =>
      (mem_catalog_names catalog name).trans (complete name).symm
  have followed : names.map (outward catalog.nesting.paths) = ways := by
    clear sorted complete ascending
    induction out with
    | nil => rfl
    | cons way _ ih => rw [List.map_cons, ih, outward_way_out _ _ _ way _ fun _ _ => rfl]
  rw [placedNames, sorted, followed]

section
variable (catalog : Catalog) (rooted : Rooted catalog)
include rooted

theorem way_out_of_name (name : String) (member : name ∈ catalogNames catalog) :
    WayOut catalog.nesting name (outward catalog.nesting.paths name) := by
  obtain ⟨definition, present, rfl⟩ := (mem_catalog_names catalog name).mp member
  exact outward_complete _ _ (rooted.named definition present) (rooted.reaches definition present)

theorem mem_placed_names (name : String) : name ∈ placedNames catalog ↔
    ∃ inner, Defined catalog inner ∧ (name = inner ∨ Around catalog.nesting inner name) := by
  simp only [placedNames, List.mem_eraseDups, List.mem_flatMap, List.mem_map, List.mem_reverse]
  constructor
  · rintro ⟨way, ⟨inner, member, rfl⟩, inWay⟩
    have out := way_out_of_name catalog rooted inner member
    exact ⟨inner, (mem_catalog_names catalog inner).mp member, (mem_way_out _ _ _ out name).mp inWay⟩
  · rintro ⟨inner, defined, onWay⟩
    have member := (mem_catalog_names catalog inner).mpr defined
    have out := way_out_of_name catalog rooted inner member
    exact ⟨_, ⟨inner, member, rfl⟩, (mem_way_out _ _ _ out name).mpr onWay⟩

theorem mem_synthesized (name : String) : name ∈ (Layout.ofCatalog catalog).synthesized ↔
    ¬ Defined catalog name ∧ ∃ inner, Defined catalog inner ∧ Around catalog.nesting inner name := by
  have onWay : name ∈ ((catalogNames catalog).map (outward catalog.nesting.paths)).flatten.eraseDups ↔
      name ∈ placedNames catalog := by
    simp [placedNames, List.mem_eraseDups]
  change name ∈ List.filter _ (((catalogNames catalog).map (outward catalog.nesting.paths)).flatten.eraseDups) ↔ _
  rw [List.mem_filter, onWay, mem_placed_names catalog rooted, Option.isNone_iff_eq_none, find_named_defined]
  constructor
  · rintro ⟨⟨inner, defined, same | around⟩, missing⟩
    · exact absurd (same ▸ defined) missing
    · exact ⟨missing, inner, defined, around⟩
  · rintro ⟨missing, inner, defined, around⟩
    exact ⟨⟨inner, defined, .inr around⟩, missing⟩

theorem placed_iff_defined_or_synthesized (name : String) : name ∈ placedNames catalog ↔
    Defined catalog name ∨ name ∈ (Layout.ofCatalog catalog).synthesized := by
  rw [mem_placed_names catalog rooted, mem_synthesized catalog rooted]
  constructor
  · rintro ⟨inner, defined, same | around⟩
    · exact .inl (same ▸ defined)
    · exact (Classical.em (Defined catalog name)).imp id fun missing => ⟨missing, inner, defined, around⟩
  · rintro (defined | ⟨_, inner, defined, around⟩)
    · exact ⟨name, defined, .inl rfl⟩
    · exact ⟨inner, defined, .inr around⟩

theorem placed_name_named (name : String) (placed : name ∈ placedNames catalog) : name ≠ "" := by
  obtain ⟨inner, ⟨definition, member, rfl⟩, same | around⟩ := (mem_placed_names catalog rooted name).mp placed
  · exact same ▸ rooted.named definition member
  · obtain ⟨_, _, _, outer⟩ := Relation.TransGen.tail'_iff.mp around
    exact outer

theorem enclosing_placed (name : String) (placed : name ∈ placedNames catalog)
    (nested : enclosing catalog.nesting name ≠ "") : enclosing catalog.nesting name ∈ placedNames catalog := by
  rw [mem_placed_names catalog rooted] at placed ⊢
  obtain ⟨inner, defined, onWay⟩ := placed
  have next : DirectlyAround catalog.nesting name (enclosing catalog.nesting name) := ⟨rfl, nested⟩
  refine ⟨inner, defined, .inr ?_⟩
  rcases onWay with same | around
  · exact same ▸ .single next
  · exact .tail around next

theorem placed_names_outside_first : OutsideFirst catalog.nesting [] (placedNames catalog) := by
  apply outside_first_erase_dups
  apply outside_first_ways
  intro way member
  obtain ⟨name, present, rfl⟩ := List.mem_map.mp member
  exact ⟨name, way_out_of_name catalog rooted name present⟩

theorem layout_arranged : Arranged (Layout.ofCatalog catalog).placements where
  distinct := by
    rw [placement_names]
    exact placed_names_nodup catalog
  named := by
    intro placement member
    have placed := List.mem_map_of_mem (f := (·.name)) member
    rw [placement_names] at placed
    exact placed_name_named catalog rooted placement.name placed
  behind := behind_place_names _ _ _ _ (placed_names_outside_first catalog rooted)

end

theorem placement_of_catalog (catalog : Catalog) (name : String) :
    ((Layout.ofCatalog catalog).placements.find? fun placement => placement.name = name) =
      if name ∈ placedNames catalog then some (placeName catalog.byName catalog.nesting name) else none := by
  rw [placements_eq]
  induction placedNames catalog with
  | nil => rfl
  | cons first rest ih =>
      by_cases same : first = name
      · simp [same]
      · have other : name ≠ first := Ne.symm same
        simp only [List.map_cons, List.find?_cons, place_name_name, same, decide_false, ih, List.mem_cons, other,
          false_or]

theorem parent_of_catalog (catalog : Catalog) (name : String) :
    (Layout.ofCatalog catalog).parent? name =
      if name ∈ placedNames catalog then some (placeName catalog.byName catalog.nesting name).parent else none := by
  rw [Layout.parent?, placement_of_catalog]
  split <;> rfl

theorem parent_some_iff (catalog : Catalog) (name parent : String) :
    (Layout.ofCatalog catalog).parent? name = some parent ↔
      name ∈ placedNames catalog ∧ (placeName catalog.byName catalog.nesting name).parent = parent := by
  rw [parent_of_catalog]
  split <;> simp [*]

theorem parent_is_some_iff (catalog : Catalog) (name : String) :
    ((Layout.ofCatalog catalog).parent? name).isSome ↔ name ∈ placedNames catalog := by
  rw [parent_of_catalog]
  split <;> simp [*]

theorem mem_children_iff (catalog : Catalog) (name parent : String) :
    name ∈ (Layout.ofCatalog catalog).childrenOf parent ↔ (Layout.ofCatalog catalog).parent? name = some parent := by
  rw [parent_some_iff, Layout.childrenOf, Schema.mem_sorted_names, placements_eq]
  simp only [List.mem_map, List.mem_filter, decide_eq_true_eq]
  constructor
  · rintro ⟨_, ⟨⟨placed, member, rfl⟩, inside⟩, rfl⟩
    rw [place_name_name]
    exact ⟨member, inside⟩
  · rintro ⟨member, inside⟩
    exact ⟨_, ⟨⟨name, member, rfl⟩, inside⟩, place_name_name _ _ _⟩

inductive LeadsToTop (layout : Layout) : String → Prop where
  | top (name : String) (placed : layout.parent? name = some "") : LeadsToTop layout name
  | inside (name parent : String) (placed : layout.parent? name = some parent) (outer : LeadsToTop layout parent) :
      LeadsToTop layout name

theorem behind_leads_to_top (layout : Layout) (rest : List Placement) (seen : List String)
    (order : Behind seen rest) (known : ∀ name ∈ seen, LeadsToTop layout name)
    (placed : ∀ placement ∈ rest, layout.parent? placement.name = some placement.parent) :
    ∀ placement ∈ rest, LeadsToTop layout placement.name := by
  induction rest generalizing seen with
  | nil => intro placement member; cases member
  | cons first rest ih =>
      have entry := placed first List.mem_cons_self
      have leads : LeadsToTop layout first.name := by
        rcases order.1 with outermost | earlier
        · exact .top first.name (outermost ▸ entry)
        · exact .inside first.name first.parent entry (known first.parent earlier)
      intro placement member
      rcases List.mem_cons.mp member with same | later
      · exact same ▸ leads
      · refine ih (first.name :: seen) order.2 ?_ (fun other present => placed other (List.mem_cons_of_mem _ present))
          placement later
        intro name present
        exact (List.mem_cons.mp present).elim (fun same => same ▸ leads) (known name)

theorem arranged_leads_to_top (catalog : Catalog) (rooted : Rooted catalog) (name : String)
    (placed : name ∈ placedNames catalog) : LeadsToTop (Layout.ofCatalog catalog) name := by
  have order := (layout_arranged catalog rooted).behind
  have entries : ∀ placement ∈ (Layout.ofCatalog catalog).placements,
      (Layout.ofCatalog catalog).parent? placement.name = some placement.parent := by
    intro placement member
    rw [placements_eq] at member
    obtain ⟨inner, present, rfl⟩ := List.mem_map.mp member
    rw [place_name_name]
    exact (parent_some_iff catalog inner _).mpr ⟨present, rfl⟩
  have member : placeName catalog.byName catalog.nesting name ∈ (Layout.ofCatalog catalog).placements := by
    rw [placements_eq]
    exact List.mem_map_of_mem placed
  simpa using behind_leads_to_top _ _ [] order (fun _ none => absurd none List.not_mem_nil) entries _ member

def Orphaned (catalog : Catalog) (layout : Layout) (name : String) : Prop :=
  -- What is around these names is made up, cannot hold them, or has nothing of its own.
  (layout.parent? name).isSome ∧ enclosing catalog.nesting name ≠ "" ∧
    (enclosing catalog.nesting name ∈ layout.synthesized ∨
      ∃ outer, findNamed catalog.byName (enclosing catalog.nesting name) = some outer ∧ (outer.isEnum ∨ outer.isShell))

def orphansOf (layout : Layout) : List (Option String) :=
  (layout.warnings.filter fun warning => warning.kind = "orphan_nested").map (·.definition)

theorem place_name_orphan (definitions : List Definition) (nesting : Nesting) (name : String) :
    (placeName definitions nesting name).orphan.isSome ↔ enclosing nesting name ≠ "" ∧
      (findNamed definitions (enclosing nesting name) = none ∨
        ∃ outer, findNamed definitions (enclosing nesting name) = some outer ∧ (outer.isEnum ∨ outer.isShell)) := by
  unfold placeName
  by_cases outermost : enclosing nesting name = ""
  · simp [outermost]
  · cases found : findNamed definitions (enclosing nesting name) with
    | none => simp [outermost, found]
    | some outer =>
        by_cases values : outer.isEnum = true
        · simp [outermost, found, values]
        · by_cases shell : outer.isShell = true <;> simp [outermost, found, values, shell]

theorem orphans_eq (layout : Layout) : orphansOf layout =
    (layout.placements.filter fun placement => placement.orphan.isSome).map fun placement => some placement.name := by
  unfold orphansOf Layout.warnings
  induction layout.placements with
  | nil => rfl
  | cons first rest ih =>
      cases reason : first.orphan with
      | none => simpa [reason] using ih
      | some why => simpa [reason] using ih

theorem orphans_nodup (catalog : Catalog) (rooted : Rooted catalog) : (orphansOf (Layout.ofCatalog catalog)).Nodup := by
  rw [orphans_eq]
  have distinct := (layout_arranged catalog rooted).distinct
  have kept := distinct.sublist (List.filter_sublist (p := fun p : Placement => p.orphan.isSome).map (·.name))
  have mapped := kept.map (f := some) fun _ _ same => Option.some.inj same
  simpa only [List.map_map, Function.comp_def] using mapped

theorem mem_orphans_iff (catalog : Catalog) (rooted : Rooted catalog) (name? : Option String) :
    name? ∈ orphansOf (Layout.ofCatalog catalog) ↔
      ∃ name, name? = some name ∧ Orphaned catalog (Layout.ofCatalog catalog) name := by
  have missing : ∀ name, name ∈ placedNames catalog → enclosing catalog.nesting name ≠ "" →
      (findNamed catalog.byName (enclosing catalog.nesting name) = none ↔
        enclosing catalog.nesting name ∈ (Layout.ofCatalog catalog).synthesized) := by
    intro name placed nested
    have outer := enclosing_placed catalog rooted name placed nested
    rw [find_named_defined]
    rw [placed_iff_defined_or_synthesized catalog rooted] at outer
    exact ⟨outer.resolve_left, fun made => ((mem_synthesized catalog rooted _).mp made).1⟩
  rw [orphans_eq, placements_eq]
  simp only [List.mem_map, List.mem_filter, Orphaned, parent_is_some_iff]
  constructor
  · rintro ⟨_, ⟨⟨name, placed, rfl⟩, orphan⟩, rfl⟩
    obtain ⟨nested, reason⟩ := (place_name_orphan _ _ _).mp orphan
    refine ⟨name, by rw [place_name_name], placed, nested, ?_⟩
    exact reason.imp (missing name placed nested).mp id
  · rintro ⟨name, rfl, placed, nested, reason⟩
    refine ⟨_, ⟨⟨name, placed, rfl⟩, ?_⟩, by rw [place_name_name]⟩
    exact (place_name_orphan _ _ _).mpr ⟨nested, reason.imp (missing name placed nested).mpr id⟩

structure CompleteForest (catalog : Catalog) (layout : Layout) : Prop where
  waysEnd : ∀ name, Defined catalog name → WayOut catalog.nesting name (outward catalog.nesting.paths name)
  placed : ∀ name, (layout.parent? name).isSome ↔ Defined catalog name ∨ name ∈ layout.synthesized
  synthesized : ∀ name, name ∈ layout.synthesized ↔
    ¬ Defined catalog name ∧ ∃ inner, Defined catalog inner ∧ Around catalog.nesting inner name
  parentPlaced : ∀ name parent, layout.parent? name = some parent → parent = "" ∨
    ∃ outer ∈ layout.placements, outer.name = parent ∧ outer.definition.isEnum = false
  parentPath : ∀ name parent, layout.parent? name = some parent →
    parent = if (findNamed catalog.byName (enclosing catalog.nesting name)).any (·.isEnum) then ""
      else enclosing catalog.nesting name
  children : ∀ name parent, name ∈ layout.childrenOf parent ↔ layout.parent? name = some parent
  ascending : ∀ parent, (layout.childrenOf parent).Pairwise (· < ·)
  leadsToTop : ∀ name, (layout.parent? name).isSome → LeadsToTop layout name
  orphansOnce : (orphansOf layout).Nodup
  orphans : ∀ name?, name? ∈ orphansOf layout ↔ ∃ name, name? = some name ∧ Orphaned catalog layout name

theorem parent_placed (catalog : Catalog) (rooted : Rooted catalog) (name parent : String)
    (entry : (Layout.ofCatalog catalog).parent? name = some parent) : parent = "" ∨
      ∃ outer ∈ (Layout.ofCatalog catalog).placements, outer.name = parent ∧ outer.definition.isEnum = false := by
  obtain ⟨placed, rfl⟩ := (parent_some_iff catalog name parent).mp entry
  rw [place_name_parent]
  split
  · exact .inl rfl
  · rename_i noEnum
    by_cases outermost : enclosing catalog.nesting name = ""
    · exact .inl outermost
    · have outer := enclosing_placed catalog rooted name placed outermost
      refine .inr ⟨placeName catalog.byName catalog.nesting (enclosing catalog.nesting name), ?_, place_name_name _ _ _, ?_⟩
      · rw [placements_eq]
        exact List.mem_map_of_mem outer
      · rw [place_name_definition]
        cases found : findNamed catalog.byName (enclosing catalog.nesting name) with
        | none => rfl
        | some definition => simpa [found] using noEnum

theorem layout_complete_forest :
    (∀ catalog : Catalog, Rooted catalog → CompleteForest catalog (Layout.ofCatalog catalog)) ∧
      ∀ (settings : Settings) (catalog : Catalog), Textual catalog.nesting →
        Rooted (Recovery.catalogue settings catalog) := by
  constructor
  · intro catalog rooted
    exact {
      waysEnd := fun name defined => way_out_of_name catalog rooted name ((mem_catalog_names catalog name).mpr defined)
      placed := fun name => (parent_is_some_iff catalog name).trans (placed_iff_defined_or_synthesized catalog rooted name)
      synthesized := mem_synthesized catalog rooted
      parentPlaced := parent_placed catalog rooted
      parentPath := by
        intro name parent entry
        rw [← ((parent_some_iff catalog name parent).mp entry).2, place_name_parent]
      children := mem_children_iff catalog
      ascending := fun parent => Schema.sorted_names_strict _
      leadsToTop := fun name placed => arranged_leads_to_top catalog rooted name ((parent_is_some_iff catalog name).mp placed)
      orphansOnce := orphans_nodup catalog rooted
      orphans := mem_orphans_iff catalog rooted }
  · intro settings catalog textual
    exact textual_rooted _ (Recovery.catalogue_named settings catalog)
      (Recovery.catalogue_textual settings catalog textual)

def mixedCatalog : Catalog where
  modules := [{
    name := "Mixed"
    statement := .leaf .empty
    definitions := [
      { name := "Kind", enumValues := some [⟨"A", 0⟩] }, { name := "Kind$Extra", members := some [] },
      { name := "Ghost$Middle$Leaf", enumValues := some [⟨"A", -1⟩] }, { name := "Shell" },
      { name := "Shell$Part", members := some [] }, { name := "Moved", members := some [] }] }]
  nesting := { paths := [("Moved", "Kind$Extra")], links := [("Kind$Extra", "Moved")] }

theorem mixed_rooted : Rooted mixedCatalog where
  named := by decide
  reaches := by
    have steps : ∀ definition ∈ mixedCatalog.definitions,
        (enclosing mixedCatalog.nesting)^[3] definition.name = "" := by decide
    exact fun definition member => ⟨3, steps definition member⟩

theorem layout_complete_forest_mixed :
    Rooted mixedCatalog ∧ CompleteForest mixedCatalog (Layout.ofCatalog mixedCatalog) ∧
      Textual {} ∧ Rooted (Recovery.catalogue {} { modules := mixedCatalog.modules }) :=
  ⟨mixed_rooted, layout_complete_forest.1 mixedCatalog mixed_rooted, Schema.textual_empty,
    layout_complete_forest.2 {} { modules := mixedCatalog.modules } Schema.textual_empty⟩

end SchemaRecovery.Proto
