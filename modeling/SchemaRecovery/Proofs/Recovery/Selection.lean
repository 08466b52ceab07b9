import SchemaRecovery.Proofs.Script.Walk
import SchemaRecovery.Recovery.Selection
import Mathlib.Data.List.Flatten
import Mathlib.Data.List.Perm.Subperm

set_option autoImplicit false

namespace SchemaRecovery.Recovery

open Script (Node)

def isOperand : Node → Bool
  | .identifier _ | .literal .. | .template .. | .taggedTemplate .. | .array _ | .object _ | .metaProperty ..
  | .unary .. | .binary .. | .assignment .. | .conditional .. | .member .. | .call .. | .construct ..
  | .sequence _ => true
  | .leaf kind => kind = .this
  | .operand kind _ => kind ∈ [.await, .yield, .spread, .update]
  | .function kind .. => kind ≠ .declaration
  | .class kind .. => kind ≠ .declaration
  | _ => false

def isClass : Node → Bool
  | .class .. => true
  | _ => false

def functionStatements : Node → List Node
  | .function _ _ _ body => body.blockItems
  | _ => []

theorem operand_no_statement (node : Node) (operand : isOperand node = true) : node.statementExpression? = none := by
  cases node with
  | expressionStatement _ => cases operand
  | _ => rfl

theorem operand_body_statements (node : Node) (operand : isOperand node = true) (other : isClass node = false) :
    node.bodyStatements = functionStatements node := by
  cases node with
  | function kind name params body => exact List.append_nil _
  | «class» _ _ _ _ => cases other
  | whileLoop _ _ | doWhileLoop _ _ | forLoop _ _ _ _ | forIn _ _ _ | forOf _ _ _ | labeled _ _ | withStatement _ _
  | catchClause _ _ => cases operand
  | _ => rfl

theorem flat_map_subperm {α β : Type} (items : List α) (f g : α → List β) (each : ∀ item ∈ items, (f item).Subperm (g item)) :
    (items.flatMap f).Subperm (items.flatMap g) := by
  induction items with
  | nil => exact List.Subperm.refl []
  | cons first rest ih =>
      rw [List.flatMap_cons, List.flatMap_cons]
      exact (each first List.mem_cons_self).append (ih fun item member => each item (List.mem_cons_of_mem _ member))

section Walked

theorem walk_eq (node : Node) : Script.walk node = node.children.flatMap Script.walk ++ [node] := by
  have below : Script.walk = Node.postorder := funext Script.walk_postorder
  rw [below, Node.postorder_eq]

theorem walk_child (node child : Node) (member : child ∈ node.children) :
    (Script.walk child).Sublist (node.children.flatMap Script.walk) := by
  have single : ([child].flatMap Script.walk).Sublist (node.children.flatMap Script.walk) :=
    (List.singleton_sublist.mpr member).flatMap _
  simpa using single

theorem below_walk (node : Node) : (node.children.flatMap Script.walk).Sublist (Script.walk node) := by
  rw [walk_eq node]
  exact List.sublist_append_left _ _

theorem block_items_walked (body : Node) : (body.blockItems.flatMap Script.walk).Sublist (Script.walk body) := by
  cases body with
  | block statements => exact below_walk (.block statements)
  | classBody members => exact below_walk (.classBody members)
  | _ => exact List.nil_sublist _

theorem body_child (node body : Node) (found : node.body? = some body) : body ∈ node.children := by
  cases node with
  | function _ _ _ _ | «class» _ _ _ _ | whileLoop _ _ | doWhileLoop _ _ | forLoop _ _ _ _ | forIn _ _ _ | forOf _ _ _
  | labeled _ _ | withStatement _ _ | catchClause _ _ =>
      cases found
      simp [Node.children]
  | _ => cases found

theorem body_statements_walked (node : Node) :
    (node.bodyStatements.flatMap Script.walk).Sublist (node.children.flatMap Script.walk) := by
  cases found : node.body? with
  | none =>
      rw [Node.bodyStatements, found]
      exact List.nil_sublist _
  | some body =>
      rw [Node.bodyStatements, found, Option.toList_some, List.flatMap_singleton]
      exact (block_items_walked body).trans (walk_child node body (body_child node body found))

theorem statement_expression_walked (statements : List Node) :
    ((statements.filterMap (·.statementExpression?)).flatMap Script.walk).Sublist (statements.flatMap Script.walk) := by
  induction statements with
  | nil => exact List.nil_sublist _
  | cons first rest ih =>
      rw [List.flatMap_cons]
      cases found : first.statementExpression? with
      | none =>
          rw [List.filterMap_cons_none found]
          exact ih.trans (List.sublist_append_right _ _)
      | some expression =>
          have inside : (Script.walk expression).Sublist (Script.walk first) := by
            cases first <;> cases found
            exact (walk_child _ expression List.mem_cons_self).trans (below_walk _)
          rw [List.filterMap_cons_some found, List.flatMap_cons]
          exact inside.append ih

theorem body_statements_all_walked (arguments : List Node) :
    ((arguments.flatMap (·.bodyStatements)).flatMap Script.walk).Sublist (arguments.flatMap Script.walk) := by
  rw [List.flatMap_assoc]
  exact List.Sublist.flatMap_right _ fun argument _ => (body_statements_walked argument).trans (below_walk argument)

theorem expression_parts_walked (expression : Node) :
    ((expression.callArguments.flatMap (·.bodyStatements) ++ expression.listedExpressions).flatMap Script.walk).Sublist
      (expression.children.flatMap Script.walk) := by
  -- An expression is a call or a sequence but never both, so that one of the two parts is empty.
  cases expression with
  | call callee arguments | construct callee arguments =>
      have all := (body_statements_all_walked arguments).trans ((List.sublist_cons_self callee arguments).flatMap _)
      simpa only [Node.callArguments, Node.listedExpressions, Node.children, List.append_nil] using all
  | sequence expressions => exact List.Sublist.refl _
  | template parts expressions => exact (List.sublist_append_right parts expressions).flatMap _
  | _ => exact List.nil_sublist _

theorem reached_walked (node : Node) :
    (node.statementExpression?.toList ++ (reachedFrom node).flatMap Script.walk).Subperm
      (node.children.flatMap Script.walk) := by
  cases found : node.statementExpression? with
  | none =>
      have only : reachedFrom node = blockExpressions node := by
        simp [reachedFrom, closureStatements, sequenceMembers, found]
      rw [only, Option.toList_none, List.nil_append]
      exact ((statement_expression_walked _).trans (body_statements_walked node)).subperm
  | some expression =>
      have listed : reachedFrom node =
          expression.callArguments.flatMap (·.bodyStatements) ++ expression.listedExpressions := by
        cases node <;> cases found
        simp [reachedFrom, closureStatements, sequenceMembers, blockExpressions, Node.bodyStatements, Node.body?,
          Node.statementExpression?]
      have below : node.children.flatMap Script.walk = expression.children.flatMap Script.walk ++ [expression] := by
        cases node <;> cases found
        rw [← walk_eq]
        exact List.append_nil _
      have parts := (expression_parts_walked expression).subperm.append (List.Subperm.refl [expression])
      rw [below, listed]
      exact (List.perm_append_comm.subperm).trans parts

theorem all_expressions_walked (node : Node) : (allExpressions node).Subperm (Script.walk node) := by
  -- What is reached from a node may be several levels below it, so its children are not enough.
  induction bound : sizeOf node using Nat.strongRecOn generalizing node with
  | _ size ih =>
      have inner : ((reachedFrom node).flatMap allExpressions).Subperm ((reachedFrom node).flatMap Script.walk) :=
        flat_map_subperm _ _ _ fun item member => ih _ (bound ▸ reached_smaller member) item rfl
      have rest := ((List.Subperm.refl node.statementExpression?.toList).append inner).trans (reached_walked node)
      rw [all_expressions_eq, walk_eq, List.cons_append]
      exact ((List.subperm_cons node).mpr rest).trans (List.perm_append_singleton node _).symm.subperm

end Walked

section Defines
variable (settings : Settings)

theorem defines_iff (node : Node) : definesSpec settings node = true ↔
    assignsSpec settings node = true ∨ (∃ expression, node.statementExpression? = some expression ∧
      assignsSpec settings expression = true) ∨ ∃ inner ∈ reachedFrom node, definesSpec settings inner = true := by
  rw [definesSpec, all_expressions_eq]
  simp only [List.any_eq_true, List.mem_append, List.mem_cons, Option.mem_toList, List.mem_flatMap, definesSpec]
  constructor
  · rintro ⟨found, (rfl | own) | ⟨inner, reached, member⟩, assigns⟩
    · exact .inl assigns
    · exact .inr (.inl ⟨found, own, assigns⟩)
    · exact .inr (.inr ⟨inner, reached, found, member, assigns⟩)
  · rintro (assigns | ⟨found, own, assigns⟩ | ⟨inner, reached, found, member, assigns⟩)
    · exact ⟨node, .inl (.inl rfl), assigns⟩
    · exact ⟨found, .inl (.inr own), assigns⟩
    · exact ⟨found, .inr ⟨inner, reached, member⟩, assigns⟩

theorem statement_defines_iff (expression : Node) :
    definesSpec settings (.expressionStatement expression) = true ↔ assignsSpec settings expression = true ∨
      (∃ inner ∈ expression.callArguments.flatMap (·.bodyStatements), definesSpec settings inner = true) ∨
      ∃ inner ∈ expression.listedExpressions, definesSpec settings inner = true := by
  have reached : reachedFrom (.expressionStatement expression) =
      expression.callArguments.flatMap (·.bodyStatements) ++ expression.listedExpressions := by
    simp [reachedFrom, closureStatements, sequenceMembers, blockExpressions, Node.bodyStatements, Node.body?,
      Node.statementExpression?]
  have itself : assignsSpec settings (.expressionStatement expression) = false := by simp [assignsSpec, assignment?]
  rw [defines_iff, reached]
  simp only [itself, Bool.false_eq_true, false_or, Node.statementExpression?, Option.some.injEq, exists_eq_left', List.mem_append,
    or_and_right, exists_or]

theorem call_defines_iff (callee : Node) (arguments : List Node)
    (operands : ∀ argument ∈ arguments, isOperand argument = true ∧ isClass argument = false) :
    definesSpec settings (.expressionStatement (.call callee arguments)) = true ↔
      ∃ argument ∈ arguments, ∃ statement ∈ functionStatements argument, definesSpec settings statement = true := by
  have unassigned : assignsSpec settings (.call callee arguments) = false := by simp [assignsSpec, assignment?]
  rw [statement_defines_iff]
  simp only [unassigned, Bool.false_eq_true, false_or, Node.callArguments, Node.listedExpressions, List.not_mem_nil,
    false_and, exists_false, or_false, List.mem_flatMap]
  constructor
  · rintro ⟨statement, ⟨argument, member, inside⟩, defines⟩
    rw [operand_body_statements argument (operands argument member).1 (operands argument member).2] at inside
    exact ⟨argument, member, statement, inside, defines⟩
  · rintro ⟨argument, member, statement, inside, defines⟩
    rw [← operand_body_statements argument (operands argument member).1 (operands argument member).2] at inside
    exact ⟨statement, ⟨argument, member, inside⟩, defines⟩

end Defines

inductive Opened : List Node → List Node → Prop where
  -- What is left of a list of statements when calls in it give way to the statements of their
  -- closures, again and again.
  | same (statements : List Node) : Opened statements statements
  | call (callee : Node) (arguments rest inner : List Node)
      (operands : ∀ argument ∈ arguments, isOperand argument = true ∧ isClass argument = false)
      (opened : Opened (arguments.flatMap functionStatements ++ rest) inner) :
      Opened (.expressionStatement (.call callee arguments) :: rest) inner
  | next (statement : Node) (rest inner : List Node) (opened : Opened rest inner) :
      Opened (statement :: rest) (statement :: inner)

theorem opened_defines (settings : Settings) (outer inner : List Node) (opened : Opened outer inner) :
    (∃ statement ∈ outer, definesSpec settings statement = true) ↔
      ∃ statement ∈ inner, definesSpec settings statement = true := by
  induction opened with
  | same statements => exact Iff.rfl
  | call callee arguments rest inner operands _ ih =>
      rw [← ih, List.exists_mem_cons_iff, call_defines_iff settings callee arguments operands]
      simp only [List.mem_append, List.mem_flatMap, or_and_right, exists_or]
      refine or_congr_left ⟨?_, ?_⟩
      · rintro ⟨argument, member, statement, inside, defines⟩
        exact ⟨statement, ⟨argument, member, inside⟩, defines⟩
      · rintro ⟨statement, ⟨argument, member, inside⟩, defines⟩
        exact ⟨argument, member, statement, inside, defines⟩
  | next statement rest inner _ ih => rw [List.exists_mem_cons_iff, List.exists_mem_cons_iff, ih]

/-- A call is a module if and only if something in its closures is, at any depth; and what makes a
module of it is met again by every walk over it. -/
theorem selection_through_closures (settings : Settings) :
    (∀ callee arguments, (∀ argument ∈ arguments, isOperand argument = true ∧ isClass argument = false) →
      (definesSpec settings (.expressionStatement (.call callee arguments)) = true ↔
        ∃ argument ∈ arguments, ∃ statement ∈ functionStatements argument, definesSpec settings statement = true)) ∧
    (∀ outer inner, Opened outer inner →
      ((∃ statement ∈ outer, definesSpec settings statement = true) ↔
        ∃ statement ∈ inner, definesSpec settings statement = true)) ∧
    (∀ statement, (allExpressions statement).Subperm (Script.walk statement)) ∧
    ∀ statements, ∀ candidate ∈ candidates settings statements, ∃ node ∈ Script.walk candidate.statement,
      ∃ assignment, assignment? node = some assignment ∧ assignment.property = settings.specProperty := by
  refine ⟨call_defines_iff settings, opened_defines settings, all_expressions_walked, fun statements candidate member => ?_⟩
  have defines := (List.mem_filter.mp member).2
  obtain ⟨node, found, assigns⟩ := List.any_eq_true.mp defines
  obtain ⟨assignment, assigned, named⟩ := (Option.any_eq_true _ _).mp assigns
  exact ⟨node, (all_expressions_walked candidate.statement).subset found, assignment, assigned, by simpa using named⟩

namespace Wrapped

def functionOf (statements : List Node) : Node := .function .expression none [] (.block statements)

def called (name : String) (arguments : List Node) : Node := .expressionStatement (.call (.identifier name) arguments)

def specified : Node :=
  .expressionStatement (.assignment "=" (.member false (.identifier "c") (.identifier "internalSpec")) (.object []))

def wrapped : Node :=
  called "w" [functionOf [called "d" [.literal (.text "A") "\"A\"", functionOf [specified], .literal (.number (.whole 1)) "1"]]]

end Wrapped

open Wrapped in
theorem selection_through_closures_wrapped : Opened [wrapped] [specified] ∧ definesSpec {} wrapped = true ∧
    (∃ candidate ∈ candidates {} [wrapped], ∃ node ∈ Script.walk candidate.statement,
      ∃ assignment, assignment? node = some assignment ∧ assignment.property = "internalSpec") := by
  obtain ⟨_, opens, _, selected⟩ := selection_through_closures {}
  have opened : Opened [wrapped] [specified] :=
    .call _ _ [] _ (by decide) (.call _ _ [] _ (by decide) (.same [specified]))
  have inner : definesSpec {} specified = true := by
    rw [specified, statement_defines_iff]
    exact .inl (by decide)
  have outer : definesSpec {} wrapped = true := by simpa [inner] using opens _ _ opened
  refine ⟨opened, outer, ⟨0, wrapped⟩, ?_, selected [wrapped] ⟨0, wrapped⟩ ?_⟩ <;>
    exact List.mem_filter.mpr ⟨List.mem_cons_self, outer⟩

end SchemaRecovery.Recovery
