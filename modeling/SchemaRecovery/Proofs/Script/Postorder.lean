import SchemaRecovery.Proofs.Script.Walk
import Mathlib.Data.List.Forall2
import Mathlib.Data.List.Nodup

set_option autoImplicit false

namespace SchemaRecovery.Script

abbrev Address := List Nat

def Node.at? (node : Node) : Address → Option Node
  | [] => some node
  | index :: below => node.children[index]?.bind fun child => child.at? below

inductive Before : Address → Address → Prop where
  -- A place comes before every place that it is inside of. Where the ways to two places part,
  -- the one that goes to the earlier child comes first.
  | inside (place : Address) (index : Nat) (below : Address) : Before (place ++ index :: below) place
  | beside (common : Address) (left right : Nat) (a b : Address) (less : left < right) :
      Before (common ++ left :: a) (common ++ right :: b)

theorem step_child (node : Node) (step : Step) (member : step ∈ stepsOf node) : step.node ∈ node.children :=
  List.mem_of_getElem? ((mem_steps_of node step).mp member)

def Node.places (node : Node) : List Address :=
  ((stepsOf node).attach.flatMap fun step => step.1.node.places.map (step.1.index :: ·)) ++ [[]]
termination_by sizeOf node
decreasing_by exact Node.child_smaller (step_child node step.1 step.2)

theorem places_eq (node : Node) :
    node.places = ((stepsOf node).flatMap fun step => step.node.places.map (step.index :: ·)) ++ [[]] := by
  rw [Node.places, List.flatMap_subtype (g := fun step => step.node.places.map (step.index :: ·)) fun _ _ => rfl]
  simp

theorem steps_nodes (node : Node) : (stepsOf node).map (·.node) = node.children := by
  apply List.ext_getElem <;> simp [stepsOf]

theorem steps_ascending (node : Node) : (stepsOf node).Pairwise fun a b => a.index < b.index := by
  rw [List.pairwise_iff_getElem]
  intro i j _ _ less
  simpa [stepsOf] using less

theorem at_child (node : Node) (step : Step) (member : step ∈ stepsOf node) (place : Address) :
    node.at? (step.index :: place) = step.node.at? place := by
  rw [Node.at?, (mem_steps_of node step).mp member, Option.bind_some]

theorem mem_places (node : Node) (place : Address) : place ∈ node.places ↔ (node.at? place).isSome := by
  induction place generalizing node with
  | nil =>
      rw [places_eq]
      simp [Node.at?]
  | cons index below ih =>
      rw [places_eq, List.mem_append, List.mem_flatMap]
      constructor
      · rintro (⟨step, member, inside⟩ | root)
        · obtain ⟨further, present, same⟩ := List.mem_map.mp inside
          obtain ⟨rfl, rfl⟩ := List.cons.inj same
          rw [at_child node step member]
          exact (ih step.node).mp present
        · exact absurd (List.mem_singleton.mp root) (List.cons_ne_nil _ _)
      · intro found
        obtain ⟨child, here⟩ := Option.isSome_iff_exists.mp (Option.isSome_of_isSome_bind found)
        have member : (⟨index, child⟩ : Step) ∈ stepsOf node := (mem_steps_of _ _).mpr here
        rw [at_child node ⟨index, child⟩ member] at found
        exact .inl ⟨_, member, List.mem_map_of_mem ((ih child).mpr found)⟩

theorem before_cons (index : Nat) (a b : Address) (before : Before a b) : Before (index :: a) (index :: b) := by
  cases before with
  | inside _ next below => exact .inside (index :: b) next below
  | beside common left right a b less => exact .beside (index :: common) left right a b less

theorem before_different (a b : Address) (before : Before a b) : a ≠ b := by
  cases before with
  | inside _ next below =>
      intro same
      have lengths := congrArg List.length same
      rw [List.length_append, List.length_cons] at lengths
      omega
  | beside common left right a b less =>
      intro same
      have first := (List.cons.inj (List.append_cancel_left same)).1
      omega

theorem places_ordered (node : Node) : node.places.Pairwise Before := by
  induction node using Node.places.induct with
  | case1 node ih =>
      rw [places_eq, List.pairwise_append]
      refine ⟨List.pairwise_flatMap.mpr ⟨fun step member => ?_, ?_⟩, List.pairwise_singleton _ _, ?_⟩
      · exact List.pairwise_map.mpr ((ih ⟨step, member⟩).imp (before_cons step.index _ _))
      · refine (steps_ascending node).imp fun less a left b right => ?_
        obtain ⟨_, _, rfl⟩ := List.mem_map.mp left
        obtain ⟨_, _, rfl⟩ := List.mem_map.mp right
        exact .beside [] _ _ _ _ less
      · intro place inside root last
        obtain ⟨step, _, below⟩ := List.mem_flatMap.mp inside
        obtain ⟨further, _, rfl⟩ := List.mem_map.mp below
        rw [List.mem_singleton.mp last]
        exact .inside [] step.index further

theorem places_nodes (node : Node) : node.places.map node.at? = node.postorder.map some := by
  induction node using Node.places.induct with
  | case1 node ih =>
      rw [places_eq, Node.postorder_eq, ← steps_nodes, List.map_append, List.map_append, List.map_flatMap,
        List.flatMap_map, List.map_flatMap]
      congr 1
      refine List.flatMap_congr fun step member => ?_
      rw [← ih ⟨step, member⟩, List.map_map]
      exact List.map_congr_left fun place _ => at_child node step member place

def descend : Address → Trail → Option Trail
  | [], trail => some trail
  | _ :: _, [] => none
  | index :: place, step :: above =>
    step.node.children[index]?.bind fun child => descend place (⟨index, child⟩ :: step :: above)

theorem descend_step (step child : Step) (above : Trail) (member : child ∈ stepsOf step.node) (place : Address) :
    descend (child.index :: place) (step :: above) = descend place (child :: step :: above) := by
  rw [descend, (mem_steps_of _ _).mp member, Option.bind_some]

theorem walk_trails_eq (stack : List PendingTrail) : (walkTrails stack).map some =
    stack.flatMap fun pending =>
      if pending.expanded then [some (pending.step :: pending.above)]
      else pending.step.node.places.map fun place => descend place (pending.step :: pending.above) := by
  induction stack using walkTrails.induct with
  | case1 => simp [walkTrails]
  | case2 step above stack ih => simp [walkTrails, ih]
  | case3 step above stack ih =>
      have inner : (step.node.places.map fun place => descend place (step :: above)) =
          ((stepsOf step.node).flatMap fun child =>
            child.node.places.map fun place => descend place (child :: step :: above)) ++ [some (step :: above)] := by
        rw [places_eq, List.map_append, List.map_flatMap]
        congr 1
        refine List.flatMap_congr fun child member => ?_
        rw [List.map_map]
        exact List.map_congr_left fun place _ => descend_step step child above member place
      rw [walkTrails, ih, List.flatMap_append, List.flatMap_cons, List.flatMap_cons, if_pos rfl,
        if_neg Bool.false_ne_true, inner, List.append_assoc, List.flatMap_map]
      rfl

structure WayTo (root : Node) (place : Address) (way : List Step) : Prop where
  start : way.head? = some ⟨0, root⟩
  down : way.IsChain fun above child => child ∈ stepsOf above.node
  numbers : way.tail.map (·.index) = place

theorem descend_iff (place : Address) (step : Step) (above trail : Trail) :
    descend place (step :: above) = some trail ↔ ∃ down : List Step, trail = down.reverse ++ step :: above ∧
      (step :: down).IsChain (fun above child => child ∈ stepsOf above.node) ∧ down.map (·.index) = place := by
  induction place generalizing step above with
  | nil =>
      rw [descend, Option.some.injEq]
      constructor
      · rintro rfl
        exact ⟨[], rfl, .singleton _, rfl⟩
      · rintro ⟨down, rfl, _, numbers⟩
        rw [List.map_eq_nil_iff.mp numbers]
        rfl
  | cons index place ih =>
      constructor
      · intro found
        rw [descend, Option.bind_eq_some_iff] at found
        obtain ⟨child, here, further⟩ := found
        obtain ⟨down, rfl, chained, rfl⟩ := (ih ⟨index, child⟩ (step :: above)).mp further
        refine ⟨⟨index, child⟩ :: down, by simp, ?_, rfl⟩
        exact List.isChain_cons_cons.mpr ⟨(mem_steps_of _ _).mpr here, chained⟩
      · rintro ⟨down, rfl, chained, numbers⟩
        cases down with
        | nil => cases numbers
        | cons child down =>
            obtain ⟨rfl, rfl⟩ := List.cons.inj numbers
            obtain ⟨member, chained⟩ := List.isChain_cons_cons.mp chained
            rw [descend_step step child above member]
            exact (ih child (step :: above)).mpr ⟨down, by simp, chained, rfl⟩

theorem way_to_iff (root : Node) (place : Address) (way : List Step) :
    WayTo root place way ↔ descend place [⟨0, root⟩] = some way.reverse := by
  rw [descend_iff]
  constructor
  · rintro ⟨start, chained, numbers⟩
    cases way with
    | nil => cases start
    | cons first down =>
        obtain rfl := Option.some.inj start
        exact ⟨down, List.reverse_cons, chained, numbers⟩
  · rintro ⟨down, reversed, chained, numbers⟩
    obtain rfl : way = ⟨0, root⟩ :: down := by
      rw [← List.reverse_inj, reversed, List.reverse_cons]
    exact ⟨rfl, chained, numbers⟩

/-- Walks come to each place of the tree once, after every place inside it and before every place to
its right, and the trail to a place is the only way there. -/
theorem walks_postordered (root : Node) :
    walk root = root.postorder ∧
      (∀ place, place ∈ root.places ↔ (root.at? place).isSome) ∧ root.places.Nodup ∧ root.places.Pairwise Before ∧
      root.places.map root.at? = (walk root).map some ∧
      (trails root).map (fun trail => trail.head?.map (·.node)) = (walk root).map some ∧
      List.Forall₂ (fun place trail => ∀ way, WayTo root place way ↔ way = trail.reverse) root.places (trails root) := by
  have ordered := places_ordered root
  refine ⟨walk_postorder root, mem_places root, ordered.imp (before_different _ _), ordered, ?_, trails_walk root, ?_⟩
  · rw [walk_postorder]
    exact places_nodes root
  · have listed : root.places.map (fun place => descend place [⟨0, root⟩]) = (trails root).map some := by
      rw [trails, walk_trails_eq]
      simp
    rw [← List.forall₂_eq_eq_eq, List.forall₂_map_left_iff, List.forall₂_map_right_iff] at listed
    refine listed.imp fun place trail found way => ?_
    rw [way_to_iff, found, Option.some.injEq, eq_comm, List.reverse_eq_iff]

end SchemaRecovery.Script
