import SchemaRecovery.Script.Node

set_option autoImplicit false

namespace SchemaRecovery.Script

def Node.postorder (node : Node) : List Node :=
  (node.children.attach.flatMap fun child => child.1.postorder) ++ [node]
termination_by sizeOf node
decreasing_by exact Node.child_smaller child.2

theorem Node.postorder_eq (node : Node) :
    node.postorder = node.children.flatMap Node.postorder ++ [node] := by
  rw [Node.postorder, List.flatMap_subtype (g := Node.postorder) fun _ _ => rfl]
  simp

structure Pending where
  node : Node
  expanded : Bool

namespace Pending

noncomputable def weight (pending : Pending) : Nat :=
  if pending.expanded then 1 else 2 * sizeOf pending.node

def ofNode (node : Node) : Pending := ⟨node, false⟩

theorem total_weight_of_node (nodes : List Node) :
    Node.total ((nodes.map ofNode).map weight) = 2 * Node.total (nodes.map sizeOf) := by
  induction nodes with
  | nil => rfl
  | cons node nodes ih =>
    simp only [List.map_cons, Node.total_cons, ih]
    simp [weight, ofNode, Nat.mul_add]

theorem weight_children_lt (node : Node) :
    Node.total ((node.children.map ofNode).map weight) + 1 < weight (ofNode node) := by
  have := node.total_size_children
  rw [total_weight_of_node]
  simp [weight, ofNode]
  omega

end Pending

def walkStack : List Pending → List Node
  | [] => []
  | ⟨node, true⟩ :: stack => node :: walkStack stack
  | ⟨node, false⟩ :: stack => walkStack (node.children.map .ofNode ++ ⟨node, true⟩ :: stack)
termination_by stack => Node.total (stack.map Pending.weight)
decreasing_by
  · simp [Pending.weight]
  · have := Pending.weight_children_lt node
    simp [Pending.weight, Pending.ofNode] at *
    omega

def walk (root : Node) : List Node := walkStack [.ofNode root]

structure Step where
  index : Nat
  node : Node

abbrev Trail := List Step

def stepsOf (node : Node) : List Step := node.children.mapIdx Step.mk

structure PendingTrail where
  step : Step
  above : Trail
  expanded : Bool

namespace PendingTrail

noncomputable def weight (pending : PendingTrail) : Nat :=
  Pending.weight ⟨pending.step.node, pending.expanded⟩

theorem weight_steps (above : Trail) (node : Node) :
    Node.total (((stepsOf node).map fun step => PendingTrail.mk step above false).map weight)
      = Node.total ((node.children.map Pending.ofNode).map Pending.weight) := by
  congr 1
  apply List.ext_getElem <;> simp [stepsOf, weight, Pending.ofNode]

end PendingTrail

def walkTrails : List PendingTrail → List Trail
  | [] => []
  | ⟨step, above, true⟩ :: stack => (step :: above) :: walkTrails stack
  | ⟨step, above, false⟩ :: stack =>
    walkTrails (((stepsOf step.node).map fun child => ⟨child, step :: above, false⟩)
      ++ ⟨step, above, true⟩ :: stack)
termination_by stack => Node.total (stack.map PendingTrail.weight)
decreasing_by
  · simp [PendingTrail.weight, Pending.weight]
  · have := Pending.weight_children_lt step.node
    have := PendingTrail.weight_steps (step :: above) step.node
    simp [PendingTrail.weight, Pending.weight, Pending.ofNode, Function.comp_def] at *
    omega

def trails (root : Node) : List Trail := walkTrails [⟨⟨0, root⟩, [], false⟩]

end SchemaRecovery.Script
