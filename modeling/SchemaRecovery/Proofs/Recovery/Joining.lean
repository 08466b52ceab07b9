import SchemaRecovery.Proofs.Recovery.Selection

set_option autoImplicit false

namespace SchemaRecovery.Recovery

open Script (Node)

def joined (expressions : List Node) : Node := .expressionStatement (.sequence expressions)

def apart (expressions : List Node) : List Node := expressions.map .expressionStatement

structure Frame where
  constructs : Bool
  callee : Node
  argumentsBefore : List Node
  kind : Script.FunctionKind
  name : Option Node
  params : List Node
  statementsBefore : List Node
  statementsAfter : List Node
  argumentsAfter : List Node

def Frame.arguments (frame : Frame) (inner : List Node) : List Node :=
  frame.argumentsBefore
    ++ .function frame.kind frame.name frame.params (.block (frame.statementsBefore ++ inner ++ frame.statementsAfter))
    :: frame.argumentsAfter

def Frame.around (frame : Frame) (inner : List Node) : Node :=
  .expressionStatement (if frame.constructs then .construct frame.callee (frame.arguments inner)
    else .call frame.callee (frame.arguments inner))

def enclosed (frames : List Frame) (inner : List Node) : List Node :=
  match frames with
  | [] => inner
  | frame :: rest => [frame.around (enclosed rest inner)]

section Joining
variable (settings : Settings)

def Qualifies (statements : List Node) : Prop := ∃ statement ∈ statements, definesSpec settings statement = true

def ShownInSequence (expression : Node) : Prop :=
  ∃ inner ∈ blockExpressions expression, definesSpec settings inner = true

def ShownAsStatement (expression : Node) : Prop :=
  -- What is seen of it only where it is a statement: the closures that it gives to a call, and
  -- its members.
  (∃ inner ∈ expression.callArguments.flatMap (·.bodyStatements), definesSpec settings inner = true) ∨
    ∃ inner ∈ expression.listedExpressions, definesSpec settings inner = true

def JoinsAlike (expressions : List Node) : Prop :=
  (∃ expression ∈ expressions, assignsSpec settings expression = true) ∨
    ((∃ expression ∈ expressions, ShownInSequence settings expression) ↔
      ∃ expression ∈ expressions, ShownAsStatement settings expression)

theorem or_iff_or_left (shared a b : Prop) : (shared ∨ a ↔ shared ∨ b) ↔ shared ∨ (a ↔ b) := by
  by_cases holds : shared
  · simp [holds]
  · simp [holds]

theorem qualifies_append (a b : List Node) :
    Qualifies settings (a ++ b) ↔ Qualifies settings a ∨ Qualifies settings b := by
  simp only [Qualifies, List.mem_append, or_and_right, exists_or]

theorem qualifies_nil : ¬ Qualifies settings [] := by simp [Qualifies]

theorem qualifies_single (statement : Node) : Qualifies settings [statement] ↔ definesSpec settings statement = true := by
  simp only [Qualifies, List.mem_singleton, exists_eq_left]

theorem operand_defines_iff (expression : Node) (operand : isOperand expression = true) :
    definesSpec settings expression = true ↔
      assignsSpec settings expression = true ∨ ShownInSequence settings expression := by
  have bare := operand_no_statement expression operand
  have reached : reachedFrom expression = blockExpressions expression := by
    simp [reachedFrom, closureStatements, sequenceMembers, bare]
  rw [defines_iff, reached]
  simp only [bare, reduceCtorEq, false_and, exists_false, false_or, ShownInSequence]

theorem joined_defines_iff (expressions : List Node) (operands : ∀ expression ∈ expressions, isOperand expression = true) :
    definesSpec settings (joined expressions) = true ↔
      (∃ expression ∈ expressions, assignsSpec settings expression = true) ∨
        ∃ expression ∈ expressions, ShownInSequence settings expression := by
  have unassigned : assignsSpec settings (.sequence expressions) = false := by simp [assignsSpec, assignment?]
  rw [joined, statement_defines_iff]
  simp only [unassigned, Bool.false_eq_true, false_or, Node.callArguments, Node.listedExpressions, List.flatMap_nil,
    List.not_mem_nil, false_and, exists_false]
  rw [← exists_or]
  refine exists_congr fun expression => ?_
  rw [← and_or_left]
  exact and_congr_right fun member => operand_defines_iff settings expression (operands expression member)

theorem apart_qualify_iff (expressions : List Node) :
    Qualifies settings (apart expressions) ↔ (∃ expression ∈ expressions, assignsSpec settings expression = true) ∨
      ∃ expression ∈ expressions, ShownAsStatement settings expression := by
  simp only [Qualifies, apart, List.mem_map, exists_exists_and_eq_and, statement_defines_iff]
  rw [← exists_or]
  exact exists_congr fun expression => and_or_left

theorem frame_defines_iff (frame : Frame) (inner : List Node) : definesSpec settings (frame.around inner) = true ↔
    definesSpec settings (frame.around []) = true ∨ Qualifies settings inner := by
  have reached (inner : List Node) : definesSpec settings (frame.around inner) = true ↔
      Qualifies settings ((frame.arguments inner).flatMap (·.bodyStatements)) := by
    rw [Frame.around, statement_defines_iff]
    split <;> simp [assignsSpec, assignment?, Node.callArguments, Node.listedExpressions, Qualifies]
  have body (statements : List Node) :
      Node.bodyStatements (.function frame.kind frame.name frame.params (.block statements)) = statements :=
    List.append_nil _
  rw [reached, reached]
  simp only [Frame.arguments, List.flatMap_append, List.flatMap_cons, body, qualifies_append, qualifies_nil, or_false]
  tauto

theorem enclosed_qualifies_iff (frames : List Frame) (inner : List Node) :
    Qualifies settings (enclosed frames inner) ↔ Qualifies settings (enclosed frames []) ∨ Qualifies settings inner := by
  induction frames with
  | nil => exact (or_iff_right (qualifies_nil settings)).symm
  | cons frame rest ih =>
      rw [enclosed, enclosed, qualifies_single, qualifies_single, frame_defines_iff, ih, frame_defines_iff settings frame
        (enclosed rest []), or_assoc]

theorem enclosed_alike_iff (frames : List Frame) (a b : List Node) :
    (Qualifies settings (enclosed frames a) ↔ Qualifies settings (enclosed frames b)) ↔
      Qualifies settings (enclosed frames []) ∨ (Qualifies settings a ↔ Qualifies settings b) := by
  rw [enclosed_qualifies_iff settings frames a, enclosed_qualifies_iff settings frames b, or_iff_or_left]

def declared (name : Option Node) (params before inner after : List Node) : Node :=
  .function .declaration name params (.block (before ++ inner ++ after))

theorem function_defines_iff (name : Option Node) (params statements : List Node) :
    definesSpec settings (.function .declaration name params (.block statements)) = true ↔
      Qualifies settings (statements.filterMap (·.statementExpression?)) := by
  -- A function that is declared shows the expressions that are statements of its block, and
  -- these as bare as the members of a sequence.
  have reached : reachedFrom (.function .declaration name params (.block statements)) =
      statements.filterMap (·.statementExpression?) := by
    simp [reachedFrom, closureStatements, sequenceMembers, blockExpressions, Node.bodyStatements, Node.body?,
      Node.blockItems, Node.statementExpression?]
  rw [defines_iff, reached]
  simp [assignsSpec, assignment?, Node.statementExpression?, Qualifies]

theorem declared_defines_iff (name : Option Node) (params before inner after : List Node) :
    definesSpec settings (declared name params before inner after) = true ↔
      definesSpec settings (declared name params before [] after) = true ∨
        Qualifies settings (inner.filterMap (·.statementExpression?)) := by
  rw [declared, declared, function_defines_iff, function_defines_iff]
  simp only [List.filterMap_append, qualifies_append, List.filterMap_nil, qualifies_nil, or_false]
  exact or_right_comm

theorem declared_joined_iff (expressions : List Node) (name : Option Node) (params before after : List Node) :
    definesSpec settings (declared name params before [joined expressions] after) = true ↔
      definesSpec settings (declared name params before [] after) = true := by
  have hidden : ¬ Qualifies settings [.sequence expressions] := by
    rw [qualifies_single, operand_defines_iff settings _ rfl]
    simp [assignsSpec, assignment?, ShownInSequence, blockExpressions, Node.bodyStatements, Node.body?]
  rw [declared_defines_iff]
  exact or_iff_left hidden

section Members
variable (expressions : List Node) (operands : ∀ expression ∈ expressions, isOperand expression = true)
include operands

theorem joined_alike_iff : (definesSpec settings (joined expressions) = true ↔ Qualifies settings (apart expressions)) ↔
    JoinsAlike settings expressions := by
  rw [joined_defines_iff settings expressions operands, apart_qualify_iff, JoinsAlike, or_iff_or_left]

theorem declared_apart_iff (name : Option Node) (params before after : List Node) :
    definesSpec settings (declared name params before (apart expressions) after) = true ↔
      definesSpec settings (declared name params before [] after) = true ∨
        ∃ expression ∈ expressions, assignsSpec settings expression = true ∨ ShownInSequence settings expression := by
  have members : (apart expressions).filterMap (·.statementExpression?) = expressions := by
    simp [apart, List.filterMap_map, Node.statementExpression?]
  rw [declared_defines_iff, members]
  refine or_congr_right (exists_congr fun expression => and_congr_right fun member => ?_)
  exact operand_defines_iff settings expression (operands expression member)

/-- When it makes no difference that statements are joined: at the top, in the closures of calls,
and in functions that are declared in such closures. -/
theorem comma_joining_iff :
    ((definesSpec settings (joined expressions) = true ↔
        ∃ expression ∈ expressions, definesSpec settings (.expressionStatement expression) = true) ↔
      JoinsAlike settings expressions) ∧
    (∀ frames, (Qualifies settings (enclosed frames [joined expressions]) ↔
        Qualifies settings (enclosed frames (apart expressions))) ↔
      Qualifies settings (enclosed frames []) ∨ JoinsAlike settings expressions) ∧
    ∀ frames name params before after,
      (Qualifies settings (enclosed frames [declared name params before [joined expressions] after]) ↔
        Qualifies settings (enclosed frames [declared name params before (apart expressions) after])) ↔
      Qualifies settings (enclosed frames [declared name params before [] after]) ∨
        ¬ ∃ expression ∈ expressions, assignsSpec settings expression = true ∨ ShownInSequence settings expression := by
  have alike := joined_alike_iff settings expressions operands
  refine ⟨?_, fun frames => ?_, fun frames name params before after => ?_⟩
  · simpa only [Qualifies, apart, List.mem_map, exists_exists_and_eq_and] using alike
  · rw [enclosed_alike_iff, qualifies_single, alike]
  · rw [enclosed_alike_iff, enclosed_qualifies_iff settings frames [declared name params before [] after], or_assoc]
    refine or_congr_right ?_
    rw [qualifies_single, qualifies_single, qualifies_single, declared_joined_iff,
      declared_apart_iff settings expressions operands, iff_self_or, imp_iff_or_not]

end Members

end Joining

namespace Sequenced
open Wrapped

def module (name : String) : Node :=
  .call (.identifier "d") [.literal (.text name) name, functionOf [specified]]

def named : Node := .assignment "=" (.member false (.identifier "c") (.identifier "name")) (.literal (.text "N") "N")

def specifies : Node :=
  .assignment "=" (.member false (.identifier "c") (.identifier "internalSpec")) (.object [])

def frame : Frame where
  constructs := false
  callee := .identifier "d"
  argumentsBefore := [.literal (.text "A") "A"]
  kind := .expression
  name := none
  params := []
  statementsBefore := []
  statementsAfter := []
  argumentsAfter := []

theorem module_defines (name : String) : definesSpec {} (.expressionStatement (module name)) = true := by
  have inner : definesSpec {} specified = true := by
    rw [specified, statement_defines_iff]
    exact .inl (by decide)
  rw [module, call_defines_iff {} _ _ (by simp [isOperand, isClass, functionOf])]
  exact ⟨functionOf [specified], by simp, specified, List.mem_cons_self, inner⟩

theorem joined_modules_missed : (∀ expression ∈ [module "A", module "B"], isOperand expression = true) ∧
    definesSpec {} (.expressionStatement (module "A")) = true ∧
    definesSpec {} (.expressionStatement (module "B")) = true ∧
    definesSpec {} (joined [module "A", module "B"]) = false := by
  -- Two modules that are joined by a comma are none.
  refine ⟨by simp [module, isOperand], module_defines "A", module_defines "B", ?_⟩
  rw [Bool.eq_false_iff, ne_eq, joined_defines_iff {} _ (by simp [module, isOperand])]
  simp [module, assignsSpec, assignment?, ShownInSequence, blockExpressions, Node.bodyStatements, Node.body?]

end Sequenced

open Sequenced in
theorem comma_joining_iff_assigned :
    (∀ expression ∈ [named, specifies], isOperand expression = true) ∧
      (Qualifies {} (enclosed [frame] [joined [named, specifies]]) ↔
        Qualifies {} (enclosed [frame] (apart [named, specifies]))) ∧
      ¬ (Qualifies {} (enclosed [frame] [declared none [] [] [joined [named, specifies]] []]) ↔
        Qualifies {} (enclosed [frame] [declared none [] [] (apart [named, specifies]) []])) := by
  have operands : ∀ expression ∈ [named, specifies], isOperand expression = true := by decide
  have assigns : assignsSpec {} specifies = true := by decide
  obtain ⟨_, closures, functions⟩ := comma_joining_iff {} [named, specifies] operands
  refine ⟨operands, (closures [frame]).mpr (.inr (.inl ⟨specifies, by simp, assigns⟩)), ?_⟩
  rw [functions [frame] none [] [] []]
  rintro (empty | absent)
  · rw [enclosed_qualifies_iff, qualifies_single, declared, function_defines_iff, enclosed, qualifies_single, Frame.around,
      statement_defines_iff] at empty
    simp [frame, Frame.arguments, enclosed, assignsSpec, assignment?, Node.callArguments, Node.listedExpressions,
      Node.bodyStatements, Node.body?, Node.blockItems, Qualifies] at empty
  · exact absent ⟨specifies, by simp, .inl assigns⟩

end SchemaRecovery.Recovery
