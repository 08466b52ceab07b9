import SchemaRecovery.Proofs.Layout.WayOut
import SchemaRecovery.Proofs.Schema.Distinct
import Mathlib.Data.List.Nodup

set_option autoImplicit false

namespace SchemaRecovery.Proto

open Schema (Catalog Definition Nesting)

def OutsideFirst (nesting : Nesting) (seen : List String) : List String → Prop
  | [] => True
  | name :: rest =>
    (enclosing nesting name = "" ∨ enclosing nesting name ∈ seen) ∧ OutsideFirst nesting (name :: seen) rest

theorem outside_first_weaken (nesting : Nesting) (names seen more : List String)
    (known : ∀ name ∈ seen, name ∈ more) (order : OutsideFirst nesting seen names) :
    OutsideFirst nesting more names := by
  induction names generalizing seen more with
  | nil => trivial
  | cons name rest ih =>
      refine ⟨order.1.imp id (known _), ih (name :: seen) (name :: more) ?_ order.2⟩
      intro other member
      exact (List.mem_cons.mp member).elim (fun same => same ▸ List.mem_cons_self)
        (fun earlier => List.mem_cons_of_mem _ (known other earlier))

theorem outside_first_append (nesting : Nesting) (seen a b : List String)
    (first : OutsideFirst nesting seen a) (second : OutsideFirst nesting (a ++ seen) b) :
    OutsideFirst nesting seen (a ++ b) := by
  induction a generalizing seen with
  | nil => exact second
  | cons name rest ih =>
      refine ⟨first.1, ih (name :: seen) first.2 (outside_first_weaken nesting b _ _ ?_ second)⟩
      intro other member
      simp only [List.cons_append, List.mem_cons, List.mem_append] at member ⊢
      rcases member with same | later | earlier
      · exact .inr (.inl same)
      · exact .inl later
      · exact .inr (.inr earlier)

theorem outside_first_filter (nesting : Nesting) (names seen : List String) (keep : String → Bool)
    (dropped : ∀ name, keep name = false → name ∈ seen) (order : OutsideFirst nesting seen names) :
    OutsideFirst nesting seen (names.filter keep) := by
  induction names generalizing seen with
  | nil => trivial
  | cons name rest ih =>
      have later := ih (name :: seen) (fun other gone => List.mem_cons_of_mem _ (dropped other gone)) order.2
      by_cases kept : keep name = true
      · rw [List.filter_cons_of_pos kept]
        exact ⟨order.1, later⟩
      · have known := dropped name (Bool.eq_false_iff.mpr kept)
        rw [List.filter_cons_of_neg kept]
        refine outside_first_weaken nesting _ _ _ ?_ later
        intro other member
        exact (List.mem_cons.mp member).elim (fun same => same ▸ known) id

theorem outside_first_erase_dups (nesting : Nesting) (names seen : List String)
    (order : OutsideFirst nesting seen names) : OutsideFirst nesting seen names.eraseDups := by
  cases names with
  | nil => trivial
  | cons name rest =>
      rw [List.eraseDups_cons]
      refine ⟨order.1, outside_first_erase_dups nesting _ _ ?_⟩
      refine outside_first_filter nesting rest (name :: seen) _ ?_ order.2
      intro other gone
      have same : other = name := by simpa using gone
      exact same ▸ List.mem_cons_self
termination_by names.length
decreasing_by
  rename_i same
  rw [same, List.length_cons]
  exact Nat.lt_succ_of_le (List.length_filter_le _ rest)

theorem outside_first_way_out (nesting : Nesting) (name : String) (way : List String)
    (out : WayOut nesting name way) : OutsideFirst nesting [] way.reverse := by
  induction out with
  | top name outermost => exact ⟨.inl outermost, trivial⟩
  | step name way nested further ih =>
      rw [List.reverse_cons]
      refine outside_first_append nesting [] _ _ ih ⟨.inr ?_, trivial⟩
      simpa using way_out_head nesting _ way further

theorem outside_first_ways (nesting : Nesting) (ways : List (List String))
    (out : ∀ way ∈ ways, ∃ name, WayOut nesting name way) : OutsideFirst nesting [] (ways.flatMap List.reverse) := by
  induction ways with
  | nil => trivial
  | cons way rest ih =>
      obtain ⟨name, first⟩ := out way List.mem_cons_self
      rw [List.flatMap_cons]
      refine outside_first_append nesting [] _ _ (outside_first_way_out nesting name way first) ?_
      exact outside_first_weaken nesting _ _ _ (fun _ none => absurd none List.not_mem_nil)
        (ih fun other member => out other (List.mem_cons_of_mem _ member))

def Behind (seen : List String) : List Placement → Prop
  | [] => True
  | placement :: rest =>
    (placement.parent = "" ∨ placement.parent ∈ seen) ∧ Behind (placement.name :: seen) rest

structure Arranged (placements : List Placement) : Prop where
  distinct : (placements.map (·.name)).Nodup
  named : ∀ placement ∈ placements, placement.name ≠ ""
  behind : Behind [] placements

theorem find_named_some (definitions : List Definition) (name : String) (definition : Definition)
    (found : findNamed definitions name = some definition) : definition ∈ definitions ∧ definition.name = name :=
  ⟨List.mem_of_find?_eq_some found, by simpa using List.find?_some found⟩

theorem find_named_none (definitions : List Definition) (name : String) :
    findNamed definitions name = none ↔ name ∉ definitions.map (·.name) := by
  simp [findNamed]

@[simp] theorem place_name_definition (definitions : List Definition) (nesting : Nesting) (name : String) :
    (placeName definitions nesting name).definition = (findNamed definitions name).getD (emptyMessage name) := by
  unfold placeName
  grind

@[simp] theorem place_name_name (definitions : List Definition) (nesting : Nesting) (name : String) :
    (placeName definitions nesting name).name = name := by
  rw [Placement.name, place_name_definition]
  cases found : findNamed definitions name with
  | none => rfl
  | some definition => exact (find_named_some _ _ _ found).2

theorem place_name_parent (definitions : List Definition) (nesting : Nesting) (name : String) :
    (placeName definitions nesting name).parent =
      if (findNamed definitions (enclosing nesting name)).any (·.isEnum) then "" else enclosing nesting name := by
  unfold placeName
  by_cases outermost : enclosing nesting name = ""
  · simp [outermost]
  · cases found : findNamed definitions (enclosing nesting name) with
    | none => simp [outermost, found]
    | some outer =>
        by_cases values : outer.isEnum = true
        · simp [outermost, found, values]
        · by_cases shell : outer.isShell = true <;> simp [outermost, found, values, shell]

theorem behind_place_names (definitions : List Definition) (nesting : Nesting) (names seen : List String)
    (order : OutsideFirst nesting seen names) : Behind seen (names.map (placeName definitions nesting)) := by
  induction names generalizing seen with
  | nil => trivial
  | cons name rest ih =>
      refine ⟨?_, by simpa using ih (name :: seen) order.2⟩
      rw [place_name_parent]
      split
      · exact .inl rfl
      · exact order.1

end SchemaRecovery.Proto
