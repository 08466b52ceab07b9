import SchemaRecovery.Proofs.Layout.Blocks
import SchemaRecovery.Proofs.Layout.Completeness
import SchemaRecovery.Proto.Check

set_option autoImplicit false

namespace SchemaRecovery.Proto

open Schema (Catalog Definition)

structure Site where
  path : List String
  block : Block

def Site.fullName (site : Site) : String := String.intercalate "." site.path

def Block.form (block : Block) : Form := formOf block.definition block.nested

mutual
def Block.sites (scope : List String) : Block → List Site
  | .node definition shown nested =>
    ⟨scope ++ [shown], .node definition shown nested⟩ :: Block.sitesOf (scope ++ [shown]) nested
def Block.sitesOf (scope : List String) : List Block → List Site
  | [] => []
  | block :: rest => block.sites scope ++ Block.sitesOf scope rest
end

def Layout.printed (layout : Layout) : List Site :=
  (Block.sitesOf [] layout.blocks).filter fun site => site.block.form ≠ .unknown

inductive PathTo (placements : List Placement) : String → List String → Prop where
  | top (placement : Placement) (member : placement ∈ placements) (outermost : placement.parent = "") :
      PathTo placements placement.name [Schema.Name.shownInside placement.name placement.parent]
  | inside (placement : Placement) (path : List String) (member : placement ∈ placements)
      (outer : PathTo placements placement.parent path) :
      PathTo placements placement.name (path ++ [Schema.Name.shownInside placement.name placement.parent])

theorem path_to_ne_nil (placements : List Placement) (name : String) (path : List String)
    (way : PathTo placements name path) : path ≠ [] := by
  cases way <;> simp

theorem path_to_mem (placements : List Placement) (name : String) (path : List String)
    (way : PathTo placements name path) : ∃ placement ∈ placements, placement.name = name := by
  cases way with
  | top placement member _ => exact ⟨placement, member, rfl⟩
  | inside placement _ member _ => exact ⟨placement, member, rfl⟩

theorem block_site (scope : List String) (block : Block) :
    ⟨scope ++ [block.shown], block⟩ ∈ block.sites scope := by
  cases block with
  | node definition shown nested => exact List.mem_cons_self

theorem printed_path_skip (skipped rest : List Placement) (name : String)
    (other : ∀ placement ∈ skipped, placement.name ≠ name) :
    Layout.printedPathIn (skipped ++ rest) name = Layout.printedPathIn rest name := by
  induction skipped with
  | nil => rfl
  | cons first skipped ih =>
      rw [List.cons_append, Layout.printedPathIn, if_neg (other first List.mem_cons_self)]
      exact ih fun placement member => other placement (List.mem_cons_of_mem _ member)

theorem behind_parent (before after : List Placement) (placement : Placement) (seen : List String)
    (order : Behind seen (before ++ placement :: after)) :
    placement.parent = "" ∨ placement.parent ∈ before.map (·.name) ∨ placement.parent ∈ seen := by
  induction before generalizing seen with
  | nil => exact order.1.imp id .inr
  | cons first before ih =>
      rcases ih (first.name :: seen) order.2 with top | earlier | known
      · exact .inl top
      · exact .inr (.inl (List.mem_cons_of_mem _ earlier))
      · rcases List.mem_cons.mp known with same | older
        · exact .inr (.inl (same ▸ List.mem_cons_self))
        · exact .inr (.inr older)

theorem behind_paths (placements rest : List Placement) (seen : List String) (order : Behind seen rest)
    (inside : ∀ placement ∈ rest, placement ∈ placements) (known : ∀ name ∈ seen, ∃ path, PathTo placements name path) :
    ∀ placement ∈ rest, ∃ path, PathTo placements placement.name path := by
  induction rest generalizing seen with
  | nil => exact fun _ member => absurd member List.not_mem_nil
  | cons first rest ih =>
      have member := inside first List.mem_cons_self
      have here : ∃ path, PathTo placements first.name path := by
        rcases order.1 with outermost | earlier
        · exact ⟨_, .top first member outermost⟩
        · obtain ⟨path, around⟩ := known first.parent earlier
          exact ⟨_, .inside first path member around⟩
      intro placement present
      rcases List.mem_cons.mp present with rfl | later
      · exact here
      · refine ih (first.name :: seen) order.2 (fun other more => inside other (List.mem_cons_of_mem _ more)) ?_ placement
          later
        intro name listed
        rcases List.mem_cons.mp listed with rfl | older
        · exact here
        · exact known name older

mutual
theorem block_sites_placed (placements : List Placement) (arranged : Arranged placements)
    (scope : List String) (block : Block) (placement : Placement)
    (member : placement ∈ placements) (here : block = blockOf placements placement)
    (way : PathTo placements placement.name (scope ++ [block.shown])) (site : Site)
    (present : site ∈ block.sites scope) :
    ∃ inner ∈ placements, site.block = blockOf placements inner ∧ PathTo placements inner.name site.path := by
  cases block with
  | node definition shown nested =>
      rw [Block.sites, List.mem_cons] at present
      rcases present with rfl | deeper
      · exact ⟨placement, member, here, way⟩
      · refine blocks_sites_placed placements arranged (scope ++ [shown]) nested placement.name (.inr way) ?_ site deeper
        intro block inside
        have forested : nested = forest placements placement.name := by
          simpa only [blockOf, Block.node.injEq, Block.nested] using congrArg Block.nested here
        exact (mem_forest placements arranged placement.name block).mp (forested ▸ inside)
theorem blocks_sites_placed (placements : List Placement) (arranged : Arranged placements)
    (scope : List String) (blocks : List Block) (parent : String)
    (around : parent = "" ∧ scope = [] ∨ PathTo placements parent scope)
    (inside : ∀ block ∈ blocks, ∃ placement ∈ placements, placement.parent = parent ∧
      block = blockOf placements placement) (site : Site) (present : site ∈ Block.sitesOf scope blocks) :
    ∃ inner ∈ placements, site.block = blockOf placements inner ∧ PathTo placements inner.name site.path := by
  cases blocks with
  | nil => cases present
  | cons first rest =>
      rw [Block.sitesOf, List.mem_append] at present
      rcases present with here | later
      · obtain ⟨placement, member, within, same⟩ := inside first List.mem_cons_self
        refine block_sites_placed placements arranged scope first placement member same ?_ site here
        rw [same]
        rcases around with ⟨top, outermost⟩ | way
        · rw [outermost, List.nil_append]
          exact .top placement member (within.trans top)
        · exact .inside placement scope member (within.symm ▸ way)
      · exact blocks_sites_placed placements arranged scope rest parent around
          (fun block member => inside block (List.mem_cons_of_mem _ member)) site later
end

section
variable (placements : List Placement) (arranged : Arranged placements)
include arranged

theorem placement_unique (a b : Placement) (left : a ∈ placements) (right : b ∈ placements) (same : a.name = b.name) :
    a = b :=
  List.inj_on_of_nodup_map arranged.distinct left right same

theorem path_to_exists (placement : Placement) (member : placement ∈ placements) :
    ∃ path, PathTo placements placement.name path :=
  behind_paths placements placements [] arranged.behind (fun _ present => present)
    (fun _ absent => absurd absent List.not_mem_nil) placement member

theorem path_to_cases (placement : Placement) (member : placement ∈ placements) (path : List String)
    (way : PathTo placements placement.name path) :
    placement.parent = "" ∧ path = [Schema.Name.shownInside placement.name placement.parent] ∨
      ∃ outer, PathTo placements placement.parent outer ∧
        path = outer ++ [Schema.Name.shownInside placement.name placement.parent] := by
  generalize same : placement.name = name at way
  cases way with
  | top other present outermost =>
      obtain rfl := placement_unique placements arranged placement other member present same
      exact .inl ⟨outermost, rfl⟩
  | inside other outer present around =>
      obtain rfl := placement_unique placements arranged placement other member present same
      exact .inr ⟨outer, around, rfl⟩

theorem path_to_unique (name : String) (a b : List String) (left : PathTo placements name a)
    (right : PathTo placements name b) : a = b := by
  induction left generalizing b with
  | top placement member outermost =>
      rcases path_to_cases placements arranged placement member b right with ⟨_, same⟩ | ⟨outer, around, _⟩
      · exact same.symm
      · obtain ⟨enclosing, present, named⟩ := path_to_mem _ _ _ around
        exact absurd (named.trans outermost) (arranged.named enclosing present)
  | inside placement path member outer ih =>
      rcases path_to_cases placements arranged placement member b right with ⟨outermost, _⟩ | ⟨other, around, longer⟩
      · obtain ⟨enclosing, present, named⟩ := path_to_mem _ _ _ outer
        exact absurd (named.trans outermost) (arranged.named enclosing present)
      · rw [longer, ih other around]

theorem printed_path_step (placement : Placement) (member : placement ∈ placements) :
    Layout.printedPathIn placements.reverse placement.name =
      if placement.parent = "" then Schema.Name.shownInside placement.name placement.parent
      else Layout.printedPathIn placements.reverse placement.parent ++ "." ++
        Schema.Name.shownInside placement.name placement.parent := by
  obtain ⟨before, after, split⟩ := List.append_of_mem member
  have distinct := arranged.distinct
  rw [split, List.map_append] at distinct
  have apart : ∀ later ∈ placement :: after, ∀ earlier ∈ before, later.name ≠ earlier.name := by
    intro later last earlier first same
    exact List.disjoint_of_nodup_append distinct (List.mem_map_of_mem first)
      (List.mem_map.mpr ⟨later, last, same⟩)
  have distinctAfter := (List.nodup_cons.mp (List.nodup_append.mp distinct).2.1).1
  have reversed : placements.reverse = after.reverse ++ (placement :: before.reverse) := by simp [split]
  rw [reversed, printed_path_skip _ _ placement.name, Layout.printedPathIn, if_pos rfl]
  · by_cases outermost : placement.parent = ""
    · rw [if_pos outermost, if_pos outermost]
    · rw [if_neg outermost, if_neg outermost]
      have known := (behind_parent before after placement [] (split ▸ arranged.behind)).resolve_left outermost
      obtain ⟨around, earlier, named⟩ := List.mem_map.mp (known.resolve_right List.not_mem_nil)
      rw [← List.singleton_append, ← List.append_assoc, printed_path_skip _ before.reverse]
      intro later last
      rw [← named]
      exact apart later (by simpa [or_comm] using last) around earlier
  · intro later last same
    exact distinctAfter (List.mem_map.mpr ⟨later, List.mem_reverse.mp last, same⟩)

theorem printed_path_eq (name : String) (path : List String) (way : PathTo placements name path) :
    Layout.printedPathIn placements.reverse name = String.intercalate "." path := by
  induction way with
  | top placement member outermost =>
      rw [printed_path_step placements arranged placement member, if_pos outermost, String.intercalate_singleton]
  | inside placement path member outer ih =>
      have nested : placement.parent ≠ "" := by
        obtain ⟨around, present, named⟩ := path_to_mem _ _ _ outer
        exact named ▸ arranged.named around present
      rw [printed_path_step placements arranged placement member, if_neg nested, ih,
        String.intercalate_append_of_ne_nil (path_to_ne_nil _ _ _ outer) (List.cons_ne_nil _ _),
        String.intercalate_singleton]

end

end SchemaRecovery.Proto
