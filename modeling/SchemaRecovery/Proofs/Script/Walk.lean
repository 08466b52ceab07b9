import SchemaRecovery.Script.Walk
import Mathlib.Data.List.Basic
import Mathlib.Logic.Relation

set_option autoImplicit false

namespace SchemaRecovery.Script

open Relation (ReflTransGen)

def ChildOf (node child : Node) : Prop := child ∈ node.children

def Deeper (above trail : Trail) : Prop :=
  ∃ step rest child, above = step :: rest ∧ child ∈ stepsOf step.node ∧ trail = child :: above

theorem walk_stack_eq (stack : List Pending) : walkStack stack =
    stack.flatMap fun pending => if pending.expanded then [pending.node] else pending.node.postorder := by
  induction stack using walkStack.induct with
  | case1 => simp [walkStack]
  | case2 node stack ih => simp [walkStack, ih]
  | case3 node stack ih =>
      rw [walkStack, ih, List.flatMap_append, List.flatMap_cons, List.flatMap_cons, if_pos rfl, if_neg Bool.false_ne_true,
        Node.postorder_eq, List.append_assoc]
      simp [List.flatMap_map, Pending.ofNode]

theorem walk_postorder (root : Node) : walk root = root.postorder := by
  rw [walk, walk_stack_eq]
  simp [Pending.ofNode]

theorem mem_walk_iff (root node : Node) : node ∈ walk root ↔ node = root ∨ ∃ child ∈ root.children, node ∈ walk child := by
  simp only [walk_postorder]
  rw [Node.postorder_eq, List.mem_append, List.mem_singleton, List.mem_flatMap, or_comm]

theorem mem_walk (root node : Node) : node ∈ walk root ↔ ReflTransGen ChildOf root node := by
  constructor
  · intro visited
    induction bound : sizeOf root using Nat.strongRecOn generalizing root with
    | _ size ih =>
        rcases (mem_walk_iff root node).mp visited with rfl | ⟨child, below, visited⟩
        · exact .refl
        · exact .head below (ih _ (bound ▸ Node.child_smaller below) child visited rfl)
  · intro way
    induction way using ReflTransGen.head_induction_on with
    | refl => exact (mem_walk_iff node node).mpr (.inl rfl)
    | head below _ ih => exact (mem_walk_iff _ node).mpr (.inr ⟨_, below, ih⟩)

theorem refl_trans_head {α : Type} (next : α → α → Prop) (start finish : α) :
    ReflTransGen next start finish ↔ finish = start ∨ ∃ middle, next start middle ∧ ReflTransGen next middle finish := by
  rw [ReflTransGen.cases_head_iff, eq_comm]

theorem mem_walk_trails (stack : List PendingTrail) (trail : Trail) : trail ∈ walkTrails stack ↔
    ∃ pending ∈ stack, if pending.expanded then trail = pending.step :: pending.above
      else ReflTransGen Deeper (pending.step :: pending.above) trail := by
  induction stack using walkTrails.induct with
  | case1 => simp [walkTrails]
  | case2 step above stack ih => simp [walkTrails, ih]
  | case3 step above stack ih =>
      rw [walkTrails, ih, List.exists_mem_cons_iff, if_neg Bool.false_ne_true, refl_trans_head Deeper (step :: above) trail]
      constructor
      · rintro ⟨pending, member, visited⟩
        rcases List.mem_append.mp member with below | later
        · obtain ⟨child, present, rfl⟩ := List.mem_map.mp below
          exact .inl (.inr ⟨child :: step :: above, ⟨step, above, child, rfl, present, rfl⟩, visited⟩)
        · rcases List.mem_cons.mp later with rfl | older
          · exact .inl (.inl visited)
          · exact .inr ⟨pending, older, visited⟩
      · rintro ((same | ⟨_, ⟨_, _, child, same, present, rfl⟩, visited⟩) | ⟨pending, member, visited⟩)
        · exact ⟨⟨step, above, true⟩, by simp, same⟩
        · obtain ⟨rfl, rfl⟩ := List.cons.inj same
          exact ⟨⟨child, step :: above, false⟩, List.mem_append_left _ (List.mem_map_of_mem present), visited⟩
        · exact ⟨pending, by simp [member], visited⟩

theorem walk_trails_nodes (stack : List PendingTrail) :
    (walkTrails stack).map (fun trail => trail.head?.map (·.node)) =
      (walkStack (stack.map fun pending => ⟨pending.step.node, pending.expanded⟩)).map some := by
  induction stack using walkTrails.induct with
  | case1 => simp [walkTrails, walkStack]
  | case2 step above stack ih => simp [walkTrails, walkStack, ih]
  | case3 step above stack ih =>
      have children : (stepsOf step.node).map (fun child => (⟨child.node, false⟩ : Pending)) =
          step.node.children.map Pending.ofNode := by
        apply List.ext_getElem <;> simp [stepsOf, Pending.ofNode]
      rw [walkTrails, ih, List.map_append, List.map_map, List.map_cons, List.map_cons, walkStack]
      simp only [Function.comp_def, children]

theorem trails_walk (root : Node) : (trails root).map (fun trail => trail.head?.map (·.node)) = (walk root).map some :=
  walk_trails_nodes _

theorem mem_trails (root : Node) (trail : Trail) : trail ∈ trails root ↔ ReflTransGen Deeper [⟨0, root⟩] trail := by
  rw [trails, mem_walk_trails]
  simp

theorem mem_steps_of (node : Node) (step : Step) : step ∈ stepsOf node ↔ node.children[step.index]? = some step.node := by
  simp only [stepsOf, List.mem_mapIdx]
  constructor
  · rintro ⟨index, bound, rfl⟩
    exact List.getElem?_eq_getElem bound
  · intro found
    obtain ⟨bound, same⟩ := List.getElem?_eq_some_iff.mp found
    exact ⟨step.index, bound, by rw [same]⟩

theorem trail_cases (root : Node) (step : Step) (above : Trail) (present : step :: above ∈ trails root) :
    step.node ∈ walk root ∧ (above = [] ∨ ∃ father rest, above = father :: rest ∧ step ∈ stepsOf father.node ∧
      above ∈ trails root) := by
  rw [mem_trails] at present
  have visited : ∀ trail : Trail, ReflTransGen Deeper [⟨0, root⟩] trail →
      ∀ step rest, trail = step :: rest → step.node ∈ walk root := by
    intro trail way
    induction way with
    | refl =>
        intro step rest same
        obtain ⟨rfl, rfl⟩ := List.cons.inj same
        exact (mem_walk root root).mpr .refl
    | tail _ next ih =>
        intro step rest same
        obtain ⟨father, more, child, rfl, below, rfl⟩ := next
        obtain ⟨rfl, rfl⟩ := List.cons.inj same
        have outer := (mem_walk root father.node).mp (ih father more rfl)
        rw [mem_walk]
        exact outer.tail (List.mem_of_getElem? ((mem_steps_of _ _).mp below))
  refine ⟨visited _ present step above rfl, ?_⟩
  rcases ReflTransGen.cases_tail present with same | ⟨middle, way, father, rest, child, rfl, below, same⟩
  · exact .inl (List.cons.inj same).2
  · obtain ⟨rfl, rfl⟩ := List.cons.inj same
    exact .inr ⟨father, rest, rfl, below, (mem_trails root _).mpr way⟩

theorem trail_above (root : Node) (step father : Step) (above : Trail) (present : step :: father :: above ∈ trails root) :
    step ∈ stepsOf father.node ∧ father :: above ∈ trails root := by
  rcases (trail_cases root step _ present).2 with impossible | ⟨_, _, same, below, higher⟩
  · cases impossible
  · cases same
    exact ⟨below, higher⟩

theorem trail_of_walk (root node : Node) (visited : node ∈ walk root) :
    ∃ index above, (⟨index, node⟩ :: above : Trail) ∈ trails root := by
  rw [mem_walk] at visited
  induction visited with
  | refl => exact ⟨0, [], (mem_trails root _).mpr .refl⟩
  | tail _ below ih =>
      rename_i father child _
      obtain ⟨index, above, present⟩ := ih
      obtain ⟨place, bound, same⟩ := List.getElem_of_mem below
      have step : (⟨place, child⟩ : Step) ∈ stepsOf father :=
        (mem_steps_of _ _).mpr (List.getElem?_eq_some_iff.mpr ⟨bound, same⟩)
      refine ⟨place, ⟨index, father⟩ :: above, (mem_trails root _).mpr ?_⟩
      exact ((mem_trails root _).mp present).tail ⟨⟨index, father⟩, above, ⟨place, child⟩, rfl, step, rfl⟩

theorem trail_child (root : Node) (father : Step) (above : Trail) (present : father :: above ∈ trails root) (index : Nat)
    (child : Node) (below : father.node.children[index]? = some child) :
    ⟨index, child⟩ :: father :: above ∈ trails root := by
  rw [mem_trails] at present ⊢
  exact present.tail ⟨father, above, ⟨index, child⟩, rfl, (mem_steps_of _ _).mpr below, rfl⟩

end SchemaRecovery.Script
