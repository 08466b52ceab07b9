import SchemaRecovery.Recovery.Shape
import Mathlib.Data.List.Basic

set_option autoImplicit false

namespace SchemaRecovery.Recovery

open Script (Node)

inductive Alternatives where
  | leaf (node : Node)
  | either (left right : Alternatives)

def paired : Node → Bool
  | .binary operator _ _ => operator = "|"
  | _ => false

namespace Alternatives

def node : Alternatives → Node
  | leaf node => node
  | either left right => .binary "|" left.node right.node

def leaves : Alternatives → List Node
  | leaf node => [node]
  | either left right => left.leaves ++ right.leaves

def Maximal (tree : Alternatives) : Prop := ∀ leaf ∈ tree.leaves, paired leaf = false

end Alternatives

def alternatives : Node → Alternatives
  | .binary operator left right =>
    if operator = "|" then .either (alternatives left) (alternatives right) else .leaf (.binary operator left right)
  | node => .leaf node

theorem apart_of_shape (node : Node) (other : ∀ operator left right, node = .binary operator left right → False) :
    paired node = false := by
  cases node with
  | binary operator left right => exact absurd rfl (other operator left right)
  | _ => rfl

theorem token_apart (node : Node) (token : TableToken) (read : tableToken? node = some token) : paired node = false := by
  cases node with
  | binary operator left right => cases read
  | _ => rfl

theorem paired_induction (motive : Node → Prop) (leaf : ∀ node, paired node = false → motive node)
    (either : ∀ left right, motive left → motive right → motive (.binary "|" left right)) (node : Node) :
    motive node := by
  induction node using alternatives.induct with
  | case1 left right first second => exact either left right first second
  | case2 operator left right other => exact leaf _ (by simpa [paired] using other)
  | case3 node other => exact leaf node (apart_of_shape node other)

theorem alternatives_leaf (node : Node) (apart : paired node = false) : alternatives node = .leaf node := by
  cases node with
  | binary operator left right =>
      have other : operator ≠ "|" := by simpa [paired] using apart
      rw [alternatives, if_neg other]
  | _ => simp [alternatives]

theorem alternatives_paired (left right : Node) :
    alternatives (.binary "|" left right) = .either (alternatives left) (alternatives right) := by
  rw [alternatives, if_pos rfl]

theorem alternatives_node (node : Node) : (alternatives node).node = node := by
  induction node using paired_induction with
  | leaf node apart => rw [alternatives_leaf node apart, Alternatives.node]
  | either left right first second => rw [alternatives_paired, Alternatives.node, first, second]

theorem alternatives_maximal (node : Node) : (alternatives node).Maximal := by
  induction node using paired_induction with
  | leaf node apart =>
      rw [alternatives_leaf node apart]
      intro leaf member
      exact List.mem_singleton.mp member ▸ apart
  | either left right first second =>
      rw [alternatives_paired]
      intro leaf member
      exact (List.mem_append.mp member).elim (first leaf) (second leaf)

theorem alternatives_unique (tree : Alternatives) (maximal : tree.Maximal) : alternatives tree.node = tree := by
  induction tree with
  | leaf node => exact alternatives_leaf node (maximal node List.mem_cons_self)
  | either left right first second =>
      rw [Alternatives.node, alternatives_paired, first fun leaf member => maximal leaf (List.mem_append_left _ member),
        second fun leaf member => maximal leaf (List.mem_append_right _ member)]

theorem or_leaves_stack_leaf (node : Node) (stack : List Node) (apart : paired node = false) :
    orLeavesStack (node :: stack) = node :: orLeavesStack stack := by
  cases node with
  | binary operator left right =>
      have other : operator ≠ "|" := by simpa [paired] using apart
      rw [orLeavesStack, if_neg other]
  | _ => simp [orLeavesStack]

theorem or_leaves_stack_append (first rest : List Node) :
    orLeavesStack (first ++ rest) = orLeavesStack first ++ orLeavesStack rest := by
  induction first using orLeavesStack.induct with
  | case1 => simp [orLeavesStack]
  | case2 left right stack ih =>
      rw [List.cons_append, orLeavesStack, if_pos rfl, orLeavesStack, if_pos rfl]
      exact ih
  | case3 operator left right stack other ih =>
      have apart : paired (.binary operator left right) = false := by simpa [paired] using other
      rw [List.cons_append, or_leaves_stack_leaf _ _ apart, or_leaves_stack_leaf _ _ apart, ih, List.cons_append]
  | case4 node stack other ih =>
      have apart := apart_of_shape node other
      rw [List.cons_append, or_leaves_stack_leaf node _ apart, or_leaves_stack_leaf node _ apart, ih, List.cons_append]

theorem or_leaves_paired (left right : Node) : orLeaves (.binary "|" left right) = orLeaves left ++ orLeaves right := by
  rw [orLeaves, orLeavesStack, if_pos rfl, orLeaves, orLeaves, ← or_leaves_stack_append]
  rfl

theorem or_leaves_leaf (node : Node) (apart : paired node = false) : orLeaves node = [node] := by
  rw [orLeaves, or_leaves_stack_leaf node [] apart, orLeavesStack]

theorem or_leaves_alternatives (node : Node) : orLeaves node = (alternatives node).leaves := by
  induction node using paired_induction with
  | leaf node apart => rw [or_leaves_leaf node apart, alternatives_leaf node apart, Alternatives.leaves]
  | either left right first second => rw [or_leaves_paired, alternatives_paired, Alternatives.leaves, first, second]

end SchemaRecovery.Recovery
