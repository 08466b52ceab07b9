import SchemaRecovery.Proofs.Layout.Order
import SchemaRecovery.Proto.Document

set_option autoImplicit false

namespace SchemaRecovery.Proto

open Schema (Definition)

def blockOf (placements : List Placement) (placement : Placement) : Block :=
  .node placement.definition (Schema.Name.shownInside placement.name placement.parent)
    (forest placements placement.name)

@[simp] theorem block_of_name (placements : List Placement) (placement : Placement) :
    (blockOf placements placement).name = placement.name := rfl

theorem form_message (definition : Definition) (nested : List Block) :
    formOf definition nested = .message ↔ definition.isMessage = true ∨ nested ≠ [] := by
  unfold formOf
  cases message : definition.isMessage <;> cases nested <;> simp
  split <;> simp

theorem nested_nil (definition : Definition) (nested : List Block) (form : formOf definition nested ≠ .message) :
    nested = [] :=
  Classical.byContradiction fun some => form ((form_message definition nested).mpr (.inr some))

theorem form_enum (definition : Definition) (values : definition.isEnum = true) : formOf definition [] = .enum := by
  have noMessage : definition.isMessage = false := by
    simp only [Definition.isEnum, Bool.and_eq_true, Bool.not_eq_true'] at values
    exact values.1
  simp [formOf, noMessage, values]

theorem mem_insert_block (block other : Block) (blocks : List Block) :
    other ∈ block.insert blocks ↔ other = block ∨ other ∈ blocks := by
  induction blocks with
  | nil => simp [Block.insert]
  | cons first rest ih =>
      by_cases before : block.name < first.name
      · rw [Block.insert, if_pos before, List.mem_cons]
      · rw [Block.insert, if_neg before, List.mem_cons, List.mem_cons, ih]
        exact or_left_comm

theorem insert_block_ascending (block : Block) (blocks : List Block)
    (ascending : (blocks.map Block.name).Pairwise (· < ·)) (fresh : block.name ∉ blocks.map Block.name) :
    ((block.insert blocks).map Block.name).Pairwise (· < ·) := by
  induction blocks with
  | nil => simp [Block.insert]
  | cons first rest ih =>
      rw [List.map_cons, List.pairwise_cons] at ascending
      by_cases before : block.name < first.name
      · rw [Block.insert, if_pos before, List.map_cons, List.map_cons, List.pairwise_cons, List.pairwise_cons]
        refine ⟨?_, ascending⟩
        intro name member
        rcases List.mem_cons.mp member with same | later
        · exact same ▸ before
        · exact String.lt_trans before (ascending.1 name later)
      · have different : first.name ≠ block.name := fun same => fresh (by simp [same])
        have after : first.name < block.name :=
          String.not_le.mp fun above => different (String.le_antisymm (String.not_lt.mp before) above)
        rw [Block.insert, if_neg before, List.map_cons, List.pairwise_cons]
        refine ⟨?_, ih ascending.2 fun member => fresh (List.mem_cons_of_mem _ member)⟩
        intro name member
        obtain ⟨other, present, rfl⟩ := List.mem_map.mp member
        rcases (mem_insert_block block other rest).mp present with same | later
        · exact same ▸ after
        · exact ascending.1 other.name (List.mem_map_of_mem later)

theorem forest_skip (before rest : List Placement) (parent : String)
    (elsewhere : ∀ placement ∈ before, placement.parent ≠ parent) :
    forest (before ++ rest) parent = forest rest parent := by
  induction before with
  | nil => rfl
  | cons first before ih =>
      rw [List.cons_append, forest, if_neg (elsewhere first List.mem_cons_self)]
      exact ih fun placement member => elsewhere placement (List.mem_cons_of_mem _ member)

theorem mem_forest_split (placements : List Placement) (parent : String) (block : Block) :
    block ∈ forest placements parent ↔ ∃ before placement after, placements = before ++ placement :: after ∧
      placement.parent = parent ∧
      block = .node placement.definition (Schema.Name.shownInside placement.name parent) (forest after placement.name) := by
  -- What a block holds was placed behind it, so it is that of the first placement or one of the rest.
  induction placements with
  | nil => simp [forest]
  | cons first rest ih =>
      have later : block ∈ forest rest parent → ∃ before placement after,
          first :: rest = before ++ placement :: after ∧ placement.parent = parent ∧
          block = .node placement.definition (Schema.Name.shownInside placement.name parent)
            (forest after placement.name) := by
        intro member
        obtain ⟨before, placement, after, split, inside, same⟩ := ih.mp member
        exact ⟨first :: before, placement, after, by rw [split, List.cons_append], inside, same⟩
      by_cases here : first.parent = parent
      · rw [forest, if_pos here, mem_insert_block]
        constructor
        · rintro (same | member)
          · exact ⟨[], first, rest, rfl, here, same⟩
          · exact later member
        · rintro ⟨before, placement, after, split, inside, same⟩
          cases before with
          | nil =>
              obtain ⟨rfl, rfl⟩ := List.cons.inj split
              exact .inl same
          | cons head before =>
              exact .inr (ih.mpr ⟨before, placement, after, (List.cons.inj split).2, inside, same⟩)
      · rw [forest, if_neg here]
        refine ⟨later, ?_⟩
        rintro ⟨before, placement, after, split, inside, same⟩
        cases before with
        | nil => exact absurd ((List.cons.inj split).1 ▸ inside) here
        | cons head before => exact ih.mpr ⟨before, placement, after, (List.cons.inj split).2, inside, same⟩

theorem forest_names (placements : List Placement) (distinct : (placements.map (·.name)).Nodup) (parent : String) :
    (forest placements parent).map Block.name =
      Schema.sortedNames ((placements.filter fun placement => placement.parent = parent).map (·.name)) := by
  have members (part : List Placement) (name : String) : name ∈ (forest part parent).map Block.name ↔
      ∃ placement ∈ part, placement.parent = parent ∧ placement.name = name := by
    simp only [List.mem_map, mem_forest_split]
    constructor
    · rintro ⟨block, ⟨before, placement, after, split, inside, rfl⟩, rfl⟩
      exact ⟨placement, by simp [split], inside, rfl⟩
    · rintro ⟨placement, member, inside, rfl⟩
      obtain ⟨before, after, split⟩ := List.append_of_mem member
      exact ⟨_, ⟨before, placement, after, split, inside, rfl⟩, rfl⟩
  refine Schema.ascending_unique _ _ ?_ (Schema.sorted_names_strict _) ?_
  · clear members
    induction placements with
    | nil => exact List.Pairwise.nil
    | cons first rest ih =>
        rw [List.map_cons, List.nodup_cons] at distinct
        by_cases here : first.parent = parent
        · rw [forest, if_pos here]
          refine insert_block_ascending _ _ (ih distinct.2) ?_
          intro member
          obtain ⟨block, present, same⟩ := List.mem_map.mp member
          obtain ⟨before, placement, after, split, _, rfl⟩ := (mem_forest_split rest parent block).mp present
          exact distinct.1 (List.mem_map.mpr ⟨placement, by simp [split], same⟩)
        · rw [forest, if_neg here]
          exact ih distinct.2
  · intro name
    rw [members, Schema.mem_sorted_names]
    simp only [List.mem_map, List.mem_filter, decide_eq_true_eq, and_assoc]

theorem behind_elsewhere (before after : List Placement) (placement : Placement) (seen : List String)
    (order : Behind seen (before ++ placement :: after)) (named : placement.name ≠ "")
    (fresh : placement.name ∉ seen) (distinct : ((before ++ placement :: after).map (·.name)).Nodup) :
    ∀ other ∈ before ++ [placement], other.parent ≠ placement.name := by
  -- What stands around a placement was placed before it, so nothing before it can stand inside
  -- it.
  induction before generalizing seen with
  | nil =>
      intro other member same
      rw [List.nil_append, List.mem_singleton] at member
      subst member
      exact order.1.elim (fun top => named (same ▸ top)) (fun earlier => fresh (same ▸ earlier))
  | cons first before ih =>
      rw [List.cons_append, List.map_cons, List.nodup_cons] at distinct
      have different : placement.name ≠ first.name := fun same => distinct.1 (by simp [← same])
      intro other member
      rcases List.mem_cons.mp member with rfl | later
      · intro same
        exact order.1.elim (fun top => named (same ▸ top)) (fun earlier => fresh (same ▸ earlier))
      · refine ih (first.name :: seen) order.2 ?_ distinct.2 other later
        simp [different, fresh]

section
variable (placements : List Placement) (arranged : Arranged placements)
include arranged

theorem forest_after (before after : List Placement) (placement : Placement)
    (split : placements = before ++ placement :: after) :
    forest after placement.name = forest placements placement.name := by
  have elsewhere := behind_elsewhere before after placement [] (split ▸ arranged.behind)
    (arranged.named placement (by simp [split])) List.not_mem_nil (split ▸ arranged.distinct)
  rw [split, ← List.singleton_append (l := after), ← List.append_assoc]
  exact (forest_skip _ after placement.name elsewhere).symm

theorem mem_forest (parent : String) (block : Block) : block ∈ forest placements parent ↔
    ∃ placement ∈ placements, placement.parent = parent ∧ block = blockOf placements placement := by
  rw [mem_forest_split]
  constructor
  · rintro ⟨before, placement, after, split, rfl, same⟩
    refine ⟨placement, by simp [split], rfl, ?_⟩
    rw [same, blockOf, forest_after placements arranged before after placement split]
  · rintro ⟨placement, member, rfl, same⟩
    obtain ⟨before, after, split⟩ := List.append_of_mem member
    refine ⟨before, placement, after, split, rfl, ?_⟩
    rw [same, blockOf, forest_after placements arranged before after placement split]

end

end SchemaRecovery.Proto
