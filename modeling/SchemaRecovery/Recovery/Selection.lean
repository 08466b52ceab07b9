import SchemaRecovery.Recovery.Shape
import SchemaRecovery.Settings

set_option autoImplicit false

namespace SchemaRecovery.Recovery

open Script (Node)

def closureStatements (node : Node) : List Node :=
  node.statementExpression?.toList.flatMap fun expression =>
    expression.callArguments.flatMap (·.bodyStatements)

def blockExpressions (node : Node) : List Node :=
  node.bodyStatements.filterMap (·.statementExpression?)

def sequenceMembers (node : Node) : List Node :=
  node.statementExpression?.toList.flatMap (·.listedExpressions)

def reachedFrom (node : Node) : List Node :=
  closureStatements node ++ blockExpressions node ++ sequenceMembers node

theorem reached_smaller {node inner : Node} (reached : inner ∈ reachedFrom node) : sizeOf inner < sizeOf node := by
  simp only [reachedFrom, closureStatements, blockExpressions, sequenceMembers, List.mem_append,
    List.mem_flatMap, Option.mem_toList, List.mem_filterMap] at reached
  rcases reached with (⟨expression, whole, argument, given, inside⟩ | ⟨statement, inside, whole⟩) | ⟨expression, whole, listed⟩
  · have outer := Node.statement_expression_smaller whole
    have middle := Node.call_argument_smaller given
    have inner := Node.body_statement_smaller inside
    omega
  · have outer := Node.body_statement_smaller inside
    have inner := Node.statement_expression_smaller whole
    omega
  · have outer := Node.statement_expression_smaller whole
    have inner := Node.listed_expression_smaller listed
    omega

def allExpressions (node : Node) : List Node :=
  node :: node.statementExpression?.toList
    ++ (reachedFrom node).attach.flatMap fun inner => allExpressions inner.1
termination_by sizeOf node
decreasing_by exact reached_smaller inner.2

theorem all_expressions_eq (node : Node) :
    allExpressions node = node :: node.statementExpression?.toList
      ++ (reachedFrom node).flatMap allExpressions := by
  rw [allExpressions, List.flatMap_subtype (g := allExpressions) fun _ _ => rfl]
  simp

def assignsSpec (settings : Settings) (node : Node) : Bool :=
  (assignment? node).any fun assignment => assignment.property = settings.specProperty

def definesSpec (settings : Settings) (statement : Node) : Bool :=
  (allExpressions statement).any (assignsSpec settings)

def statementCalls (statement : Node) : List Node :=
  match statement.statementExpression? with
  | none => []
  | some (.sequence expressions) => expressions
  | some expression => [expression]

def leadingText? : Node → Option String
  | .call _ (argument :: _) => argument.stringValue?
  | _ => none

def moduleName (statement : Node) (index : Nat) : String :=
  -- The text that is the first argument of a statement's call. A module without one is named by
  -- its position.
  ((statementCalls statement).findSome? leadingText?).getD
    ("<module " ++ Decimal.numeral index ++ ">")

structure Candidate where
  index : Nat
  statement : Node

def candidates (settings : Settings) (statements : List Node) : List Candidate :=
  (statements.mapIdx Candidate.mk).filter fun candidate => definesSpec settings candidate.statement

def selectionLog (settings : Settings) (statements : List Node) : String :=
  "[SELECT] " ++ Decimal.numeral (candidates settings statements).length ++ " of "
    ++ Decimal.numeral statements.length ++ " top-level statements define '"
    ++ settings.specProperty ++ "'"

end SchemaRecovery.Recovery
