import SchemaRecovery.Proofs.Layout.Completeness

set_option autoImplicit false

namespace SchemaRecovery.Proto

open Schema (Catalog Nesting)

theorem way_out_agree (a b : Nesting) (around : enclosing a = enclosing b) (name : String) (way : List String)
    (out : WayOut a name way) : WayOut b name way := by
  induction out with
  | top name outermost => exact .top name (around ▸ outermost)
  | step name way nested _ ih => exact .step name way (around ▸ nested) (around ▸ ih)

theorem place_name_agree (a b : Catalog) (found : findNamed a.byName = findNamed b.byName)
    (around : enclosing a.nesting = enclosing b.nesting) :
    placeName a.byName a.nesting = placeName b.byName b.nesting := by
  funext name
  simp only [placeName, found, around]

theorem defined_agree (a b : Catalog) (found : findNamed a.byName = findNamed b.byName) (name : String) :
    Defined a name ↔ Defined b name := by
  rw [← not_iff_not, ← find_named_defined, ← find_named_defined, found]

theorem layout_agree (a b : Catalog) (left : Rooted a) (right : Rooted b)
    (found : findNamed a.byName = findNamed b.byName) (around : enclosing a.nesting = enclosing b.nesting) :
    Layout.ofCatalog a = Layout.ofCatalog b := by
  have names : catalogNames a = catalogNames b := by
    refine Schema.ascending_unique _ _ (Schema.sorted_names_strict _) (Schema.sorted_names_strict _) fun name => ?_
    rw [mem_catalog_names, mem_catalog_names, defined_agree a b found]
  have chains : (catalogNames a).map (outward a.nesting.paths) = (catalogNames b).map (outward b.nesting.paths) := by
    rw [names]
    refine List.map_congr_left fun name member => ?_
    have out := way_out_of_name a left name (names ▸ member)
    exact way_out_unique b.nesting name _ _ (way_out_agree _ _ around name _ out) (way_out_of_name b right name member)
  have whole (catalog : Catalog) : Layout.ofCatalog catalog = {
      placements := (((catalogNames catalog).map (outward catalog.nesting.paths)).flatMap List.reverse).eraseDups.map
        (placeName catalog.byName catalog.nesting)
      synthesized := ((catalogNames catalog).map (outward catalog.nesting.paths)).flatten.eraseDups.filter
        fun name => (findNamed catalog.byName name).isNone } := rfl
  rw [whole a, whole b, chains, found, place_name_agree a b found around]

end SchemaRecovery.Proto
