import SchemaRecovery.Proto.Layout
import Mathlib.Data.List.Basic
import Mathlib.Logic.Function.Iterate
import Mathlib.Logic.Relation

set_option autoImplicit false

namespace SchemaRecovery.Proto

open Schema (Nesting)

def ReachesTop (nesting : Nesting) (name : String) : Prop :=
  ∃ steps, (enclosing nesting)^[steps] name = ""

def DirectlyAround (nesting : Nesting) (name outer : String) : Prop :=
  enclosing nesting name = outer ∧ outer ≠ ""

abbrev Around (nesting : Nesting) : String → String → Prop :=
  Relation.TransGen (DirectlyAround nesting)

inductive WayOut (nesting : Nesting) : String → List String → Prop where
  | top (name : String) (outermost : enclosing nesting name = "") : WayOut nesting name [name]
  | step (name : String) (way : List String) (nested : enclosing nesting name ≠ "")
      (further : WayOut nesting (enclosing nesting name) way) : WayOut nesting name (name :: way)

theorem way_out_exists (nesting : Nesting) (name : String) (named : name ≠ "")
    (reaches : ReachesTop nesting name) : ∃ way, WayOut nesting name way := by
  obtain ⟨steps, reached⟩ := reaches
  induction steps generalizing name with
  | zero => exact absurd reached named
  | succ steps ih =>
      by_cases outermost : enclosing nesting name = ""
      · exact ⟨[name], .top name outermost⟩
      · obtain ⟨way, further⟩ := ih (enclosing nesting name) outermost reached
        exact ⟨name :: way, .step name way outermost further⟩

theorem way_out_unique (nesting : Nesting) (name : String) (a b : List String)
    (left : WayOut nesting name a) (right : WayOut nesting name b) : a = b := by
  induction left generalizing b with
  | top name outermost =>
      cases right with
      | top _ _ => rfl
      | step _ _ nested _ => exact absurd outermost nested
  | step name way nested further ih =>
      cases right with
      | top _ outermost => exact absurd outermost nested
      | step _ other _ otherFurther => rw [ih other otherFurther]

theorem way_out_from (nesting : Nesting) (name : String) (way : List String) (out : WayOut nesting name way)
    (inner : String) (member : inner ∈ way) : ∃ rest, WayOut nesting inner rest ∧ rest.length ≤ way.length := by
  induction out with
  | top name outermost =>
      rw [List.mem_singleton] at member
      exact ⟨[name], member ▸ .top name outermost, Nat.le_refl _⟩
  | step name way nested further ih =>
      rcases List.mem_cons.mp member with same | later
      · exact ⟨name :: way, same ▸ .step name way nested further, Nat.le_refl _⟩
      · obtain ⟨rest, out, bound⟩ := ih later
        exact ⟨rest, out, Nat.le_succ_of_le bound⟩

theorem way_out_nodup (nesting : Nesting) (name : String) (way : List String)
    (out : WayOut nesting name way) : way.Nodup := by
  -- A way that came back to its start would be as long as a proper part of itself.
  induction out with
  | top name _ => exact List.pairwise_singleton _ name
  | step name way nested further ih =>
      refine List.nodup_cons.mpr ⟨?_, ih⟩
      intro returned
      obtain ⟨rest, again, bound⟩ := way_out_from nesting _ way further name returned
      have same := way_out_unique nesting name _ _ (.step name way nested further) again
      rw [← same, List.length_cons] at bound
      omega

theorem mem_way_out (nesting : Nesting) (name : String) (way : List String) (out : WayOut nesting name way)
    (outer : String) : outer ∈ way ↔ outer = name ∨ Around nesting name outer := by
  induction out with
  | top name outermost =>
      rw [List.mem_singleton]
      refine ⟨.inl, ?_⟩
      rintro (same | around)
      · exact same
      · obtain ⟨next, ⟨first, named⟩, _⟩ := Relation.TransGen.head'_iff.mp around
        exact absurd (first.symm.trans outermost) named
  | step name way nested further ih =>
      rw [List.mem_cons, ih]
      have first : DirectlyAround nesting name (enclosing nesting name) := ⟨rfl, nested⟩
      constructor
      · rintro (same | same | around)
        · exact .inl same
        · exact .inr (same ▸ .single first)
        · exact .inr (.head first around)
      · rintro (same | around)
        · exact .inl same
        · obtain ⟨next, ⟨rfl, _⟩, rest⟩ := Relation.TransGen.head'_iff.mp around
          rcases Relation.reflTransGen_iff_eq_or_transGen.mp rest with same | beyond
          · exact .inr (.inl same)
          · exact .inr (.inr beyond)

theorem way_out_head (nesting : Nesting) (name : String) (way : List String) (out : WayOut nesting name way) :
    name ∈ way := (mem_way_out nesting name way out name).mpr (.inl rfl)

theorem lookup_filter_other {β : Type} (pairs : List (String × β)) (key other : String) (different : other ≠ key) :
    (pairs.filter fun pair => pair.1 ≠ key).lookup other = pairs.lookup other := by
  induction pairs with
  | nil => rfl
  | cons pair rest ih =>
      obtain ⟨first, value⟩ := pair
      by_cases same : first = key
      · have missed : (other == first) = false := by simp [same, different]
        rw [List.filter_cons_of_neg (by simp [same]), List.lookup_cons, missed]
        exact ih
      · by_cases hit : other = first <;> simp_all [List.lookup_cons]

theorem outward_outermost (paths : List (String × String)) (name : String) (outermost : stepOut paths name = none) :
    outward paths name = [name] := by
  rw [outward]
  split
  · rfl
  · rename_i taken
    rw [outermost] at taken
    cases taken

theorem outward_way_out (nesting : Nesting) (name : String) (way : List String) (out : WayOut nesting name way)
    (paths : List (String × String)) (agree : ∀ inner ∈ way, paths.lookup inner = nesting.paths.lookup inner) :
    outward paths name = way := by
  have distinct := way_out_nodup nesting name way out
  -- A step drops the pair of the name that it leaves. No name is twice on the way, so all others
  -- stay registered as they were.
  induction out generalizing paths with
  | top name outermost =>
      have registered := agree name (List.mem_singleton_self name)
      have stop : stepOut paths name = none := by
        by_cases unregistered : (nesting.paths.lookup name).getD "" = ""
        · have bare : Schema.Name.nestingPath name = "" := by
            simpa [enclosing, Nesting.pathOf, unregistered] using outermost
          simp [stepOut, registered, unregistered, bare]
        · simp [enclosing, Nesting.pathOf, unregistered] at outermost
      rw [outward]
      split
      · rfl
      · rename_i next
        rw [stop] at next
        cases next
  | step name way nested further ih =>
      rw [List.nodup_cons] at distinct
      have registered := agree name List.mem_cons_self
      obtain ⟨remaining, next, kept⟩ : ∃ remaining, stepOut paths name = some (remaining, enclosing nesting name) ∧
          ∀ inner ∈ way, remaining.lookup inner = paths.lookup inner := by
        by_cases unregistered : (nesting.paths.lookup name).getD "" = ""
        · have bare : enclosing nesting name = Schema.Name.nestingPath name := by
            simp [enclosing, Nesting.pathOf, unregistered]
          refine ⟨paths, ?_, fun _ _ => rfl⟩
          simp [stepOut, registered, unregistered, bare ▸ nested, bare]
        · have path : enclosing nesting name = (nesting.paths.lookup name).getD "" := by
            simp [enclosing, Nesting.pathOf, unregistered]
          refine ⟨paths.filter fun pair => pair.1 ≠ name, ?_, ?_⟩
          · simp [stepOut, registered, unregistered, path]
          · intro inner member
            exact lookup_filter_other paths name inner fun same => distinct.1 (same ▸ member)
      rw [outward]
      split
      · rename_i stop
        rw [next] at stop
        cases stop
      · rename_i paths' name' found
        obtain ⟨rfl, rfl⟩ := Prod.mk.inj (Option.some.inj (next.symm.trans found))
        rw [ih _ (fun inner member => (kept inner member).trans (agree inner (List.mem_cons_of_mem _ member)))
          distinct.2]

theorem outward_complete (nesting : Nesting) (name : String) (named : name ≠ "")
    (reaches : ReachesTop nesting name) : WayOut nesting name (outward nesting.paths name) := by
  obtain ⟨way, out⟩ := way_out_exists nesting name named reaches
  rw [outward_way_out nesting name way out nesting.paths fun _ _ => rfl]
  exact out

end SchemaRecovery.Proto
