import SchemaRecovery.Proofs.Layout.FullName

set_option autoImplicit false

namespace SchemaRecovery.Proto

open Schema (Catalog Definition)

mutual
def Block.definitions : Block → List Definition
  | .node definition _ nested => definition :: Block.definitionsOf nested
def Block.definitionsOf : List Block → List Definition
  | [] => []
  | block :: rest => block.definitions ++ Block.definitionsOf rest
end

theorem insert_block_definitions (block : Block) (blocks : List Block) :
    (Block.definitionsOf (block.insert blocks)).Perm (block.definitions ++ Block.definitionsOf blocks) := by
  induction blocks with
  | nil => exact .refl _
  | cons first rest ih =>
      by_cases before : block.name < first.name
      · rw [Block.insert, if_pos before]
        exact .refl _
      · rw [Block.insert, if_neg before, Block.definitionsOf, Block.definitionsOf]
        refine (ih.append_left _).trans ?_
        rw [← List.append_assoc, ← List.append_assoc]
        exact List.perm_append_comm.append_right _

theorem forest_cons_definitions (first : Placement) (rest : List Placement) (parent : String) :
    (Block.definitionsOf (forest (first :: rest) parent)).Perm
      ((if first.parent = parent then first.definition :: Block.definitionsOf (forest rest first.name) else []) ++
        Block.definitionsOf (forest rest parent)) := by
  by_cases here : first.parent = parent
  · rw [forest, if_pos here, if_pos here]
    exact insert_block_definitions _ _
  · rw [forest, if_neg here, if_neg here]
    exact .refl _

theorem forest_definitions_placed (placements : List Placement) (parent : String) (definition : Definition)
    (member : definition ∈ Block.definitionsOf (forest placements parent)) :
    ∃ placement ∈ placements, placement.definition = definition := by
  induction placements generalizing parent with
  | nil => exact absurd member List.not_mem_nil
  | cons first rest ih =>
      have later (parent : String) (member : definition ∈ Block.definitionsOf (forest rest parent)) :
          ∃ placement ∈ first :: rest, placement.definition = definition := by
        obtain ⟨placement, present, same⟩ := ih parent member
        exact ⟨placement, List.mem_cons_of_mem _ present, same⟩
      rcases List.mem_append.mp ((forest_cons_definitions first rest parent).mem_iff.mp member) with inside | beside
      · split at inside
        · rcases List.mem_cons.mp inside with same | deeper
          · exact ⟨first, List.mem_cons_self, same.symm⟩
          · exact later first.name deeper
        · exact absurd inside List.not_mem_nil
      · exact later parent beside

theorem flat_map_forest_cons (first : Placement) (rest : List Placement) (parents : List String)
    (distinct : parents.Nodup) (known : first.parent ∈ parents) :
    (parents.flatMap fun parent => Block.definitionsOf (forest (first :: rest) parent)).Perm
      (first.definition ::
        (first.name :: parents).flatMap fun parent => Block.definitionsOf (forest rest parent)) := by
  have elsewhere (others : List String) (absent : first.parent ∉ others) :
      (others.flatMap fun parent => Block.definitionsOf (forest (first :: rest) parent)) =
        others.flatMap fun parent => Block.definitionsOf (forest rest parent) := by
    refine List.flatMap_congr fun parent member => ?_
    rw [forest, if_neg fun same : first.parent = parent => absent (same ▸ member)]
  obtain ⟨before, after, rfl⟩ := List.append_of_mem known
  obtain ⟨_, own, apart⟩ := List.nodup_append.mp distinct
  have here := forest_cons_definitions first rest first.parent
  rw [if_pos rfl] at here
  rw [List.flatMap_append, List.flatMap_cons, List.flatMap_cons, List.flatMap_append, List.flatMap_cons,
    elsewhere before fun member => apart _ member _ List.mem_cons_self rfl, elsewhere after (List.nodup_cons.mp own).1]
  refine ((here.append_right _).append_left _).trans ?_
  rw [List.append_assoc]
  exact List.perm_middle.trans ((List.perm_append_comm_assoc _ _ _).cons _)

theorem forests_definitions (placements : List Placement) (seen : List String) (order : Behind seen placements)
    (named : ∀ placement ∈ placements, placement.name ≠ "") (distinct : (placements.map (·.name)).Nodup)
    (parents : ("" :: seen).Nodup) (fresh : ∀ placement ∈ placements, placement.name ∉ seen) :
    (("" :: seen).flatMap fun parent => Block.definitionsOf (forest placements parent)).Perm
      (placements.map (·.definition)) := by
  -- A placement opens a parent for those behind it. Its own parent is open already, so its block
  -- goes into exactly one of the forests.
  induction placements generalizing seen with
  | nil => simp [forest, Block.definitionsOf]
  | cons first rest ih =>
      rw [List.map_cons, List.nodup_cons] at distinct
      have known : first.parent ∈ "" :: seen := List.mem_cons.mpr order.1
      have unseen : first.name ∉ "" :: seen := by
        rw [List.mem_cons, not_or]
        exact ⟨named first List.mem_cons_self, fresh first List.mem_cons_self⟩
      have further : ("" :: first.name :: seen).Nodup :=
        (List.Perm.swap "" first.name seen).nodup (List.nodup_cons.mpr ⟨unseen, parents⟩)
      refine (flat_map_forest_cons first rest _ parents known).trans ?_
      rw [List.map_cons, List.perm_cons]
      refine ((List.Perm.swap "" first.name seen).flatMap_right _).trans ?_
      refine ih (first.name :: seen) order.2 (fun other member => named other (List.mem_cons_of_mem _ member)) distinct.2
        further ?_
      intro other member
      rw [List.mem_cons, not_or]
      refine ⟨fun same => distinct.1 (same ▸ List.mem_map_of_mem member), ?_⟩
      exact fresh other (List.mem_cons_of_mem _ member)

theorem forest_definitions (placements : List Placement) (arranged : Arranged placements) :
    (Block.definitionsOf (forest placements "")).Perm (placements.map (·.definition)) := by
  have whole := forests_definitions placements [] arranged.behind arranged.named arranged.distinct
    (List.nodup_singleton "") fun _ _ => List.not_mem_nil
  simpa using whole

end SchemaRecovery.Proto
