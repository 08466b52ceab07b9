import SchemaRecovery.Decimal.Shortest
import SchemaRecovery.Script.Pattern.Basic

set_option autoImplicit false

namespace SchemaRecovery.Script

inductive Number where
  -- The value of a numeric literal. A fraction is `mantissa * 2 ^ exponent` and never an
  -- integer.
  | whole (n : Nat)
  | fraction (mantissa : Nat) (exponent : Int)
  | infinite
deriving Repr, DecidableEq

def Number.ofDouble (value : Decimal.Binary64) : Number :=
  match value.whole?, value with
  | some n, _ => .whole n
  | none, .finite mantissa exponent => .fraction mantissa exponent
  | none, .infinite => .infinite

def Number.text : Number → String
  | .whole n => Decimal.numeral n
  | .fraction mantissa exponent => Decimal.fractionText mantissa exponent
  | .infinite => "inf"

inductive LiteralValue where
  | text (value : String)
  | number (value : Number)
  | boolean (value : Bool)
  | null
  | pattern (value : Pattern)
deriving Repr, DecidableEq

inductive LeafKind where
  | this
  | super
  | importer
  | empty
  | debugger
  | templatePart
deriving Repr, DecidableEq

inductive OperandKind where
  | await
  | yield
  | spread
  | rest
  | update
  | return
  | throw
deriving Repr, DecidableEq

inductive FunctionKind where
  | declaration
  | expression
  | arrow
deriving Repr, DecidableEq

inductive ClassKind where
  | declaration
  | expression
deriving Repr, DecidableEq

inductive Node where
  | identifier (name : String)
  | literal (value : LiteralValue) (raw : String)
  | leaf (kind : LeafKind)
  | template (parts expressions : List Node)
  | taggedTemplate (tag quasi : Node)
  | array (elements : List (Option Node))
  | arrayPattern (elements : List (Option Node))
  | object (properties : List Node)
  | objectPattern (properties : List Node)
  | property (computed : Bool) (key value : Node)
  | function (kind : FunctionKind) (id : Option Node) (params : List Node) (body : Node)
  | class (kind : ClassKind) (id superClass : Option Node) (body : Node)
  | classBody (members : List Node)
  | method (key value : Node)
  | metaProperty (base name : Node)
  | unary (operator : String) (argument : Node)
  | operand (kind : OperandKind) (argument : Option Node)
  | binary (operator : String) (left right : Node)
  | assignment (operator : String) (left right : Node)
  | assignmentPattern (left right : Node)
  | conditional (test consequent alternate : Node)
  | member (computed : Bool) (target name : Node)
  | call (callee : Node) (arguments : List Node)
  | construct (callee : Node) (arguments : List Node)
  | sequence (expressions : List Node)
  | parameters (async : Bool) (params : List Node)
  | program (body : List Node)
  | block (body : List Node)
  | expressionStatement (expression : Node)
  | variableList (declarations : List Node)
  | declarator (id : Node) (value : Option Node)
  | conditionalStatement (test consequent : Node) (alternate : Option Node)
  | whileLoop (test body : Node)
  | doWhileLoop (body test : Node)
  | forLoop (start test update : Option Node) (body : Node)
  | forIn (left right body : Node)
  | forOf (left right body : Node)
  | labeled (label body : Node)
  | withStatement (scope body : Node)
  | break (label : Option Node)
  | continue (label : Option Node)
  | switch (discriminant : Node) (cases : List Node)
  | switchCase (test : Option Node) (consequent : List Node)
  | try (tried : Node) (handler finalizer : Option Node)
  | catchClause (param body : Node)

instance : Inhabited Node := ⟨.leaf .empty⟩

namespace Node

def children : Node → List Node
  | identifier _ | literal .. | leaf _ => []
  | template parts expressions => parts ++ expressions
  | taggedTemplate tag quasi => [tag, quasi]
  | array elements | arrayPattern elements => elements.filterMap id
  | object properties | objectPattern properties => properties
  | property _ key value | method key value => [key, value]
  | function _ name params body => name.toList ++ params ++ [body]
  | «class» _ name superClass body => name.toList ++ superClass.toList ++ [body]
  | classBody members => members
  | metaProperty base name => [base, name]
  | unary _ argument => [argument]
  | operand _ argument => argument.toList
  | binary _ left right | assignment _ left right | assignmentPattern left right => [left, right]
  | conditional test consequent alternate => [test, consequent, alternate]
  | member _ target name => [target, name]
  | call callee arguments | construct callee arguments => callee :: arguments
  | sequence expressions => expressions
  | parameters _ params => params
  | program body | block body => body
  | expressionStatement expression => [expression]
  | variableList declarations => declarations
  | declarator name value => name :: value.toList
  | conditionalStatement test consequent alternate => test :: consequent :: alternate.toList
  | whileLoop test body => [test, body]
  | doWhileLoop body test => [body, test]
  | forLoop start test update body => start.toList ++ test.toList ++ update.toList ++ [body]
  | forIn left right body | forOf left right body => [left, right, body]
  | labeled label body => [label, body]
  | withStatement scope body => [scope, body]
  | «break» label | «continue» label => label.toList
  | switch discriminant cases => discriminant :: cases
  | switchCase test consequent => test.toList ++ consequent
  | «try» tried handler finalizer => tried :: handler.toList ++ finalizer.toList
  | catchClause param body => [param, body]

def LeafKind.typeName : LeafKind → String
  | .this => "ThisExpression"
  | .super => "Super"
  | .importer => "Import"
  | .empty => "EmptyStatement"
  | .debugger => "DebuggerStatement"
  | .templatePart => "TemplateElement"

def OperandKind.typeName : OperandKind → String
  | .await => "AwaitExpression"
  | .yield => "YieldExpression"
  | .spread => "SpreadElement"
  | .rest => "RestElement"
  | .update => "UpdateExpression"
  | .return => "ReturnStatement"
  | .throw => "ThrowStatement"

def typeName : Node → String
  | identifier _ => "Identifier"
  | literal .. => "Literal"
  | leaf kind => LeafKind.typeName kind
  | template .. => "TemplateLiteral"
  | taggedTemplate .. => "TaggedTemplateExpression"
  | array _ => "ArrayExpression"
  | arrayPattern _ => "ArrayPattern"
  | object _ => "ObjectExpression"
  | objectPattern _ => "ObjectPattern"
  | property .. => "Property"
  | function .declaration .. => "FunctionDeclaration"
  | function .expression .. => "FunctionExpression"
  | function .arrow .. => "ArrowFunctionExpression"
  | «class» .declaration .. => "ClassDeclaration"
  | «class» .expression .. => "ClassExpression"
  | classBody _ => "ClassBody"
  | method .. => "MethodDefinition"
  | metaProperty .. => "MetaProperty"
  | unary .. => "UnaryExpression"
  | operand kind _ => OperandKind.typeName kind
  | binary operator .. =>
    if operator = "&&" ∨ operator = "||" then "LogicalExpression" else "BinaryExpression"
  | assignment .. => "AssignmentExpression"
  | assignmentPattern .. => "AssignmentPattern"
  | conditional .. => "ConditionalExpression"
  | member .. => "MemberExpression"
  | call .. => "CallExpression"
  | construct .. => "NewExpression"
  | sequence _ => "SequenceExpression"
  | parameters .. => "ArrowParameterPlaceHolder"
  | program _ => "Program"
  | block _ => "BlockStatement"
  | expressionStatement _ => "ExpressionStatement"
  | variableList _ => "VariableDeclaration"
  | declarator .. => "VariableDeclarator"
  | conditionalStatement .. => "IfStatement"
  | whileLoop .. => "WhileStatement"
  | doWhileLoop .. => "DoWhileStatement"
  | forLoop .. => "ForStatement"
  | forIn .. => "ForInStatement"
  | forOf .. => "ForOfStatement"
  | labeled .. => "LabeledStatement"
  | withStatement .. => "WithStatement"
  | «break» _ => "BreakStatement"
  | «continue» _ => "ContinueStatement"
  | switch .. => "SwitchStatement"
  | switchCase .. => "SwitchCase"
  | «try» .. => "TryStatement"
  | catchClause .. => "CatchClause"

def name? : Node → Option String
  | identifier name => some name
  | _ => none

def body? : Node → Option Node
  | function _ _ _ body | «class» _ _ _ body | whileLoop _ body | doWhileLoop body _
  | forLoop _ _ _ body | forIn _ _ body | forOf _ _ body | labeled _ body | withStatement _ body
  | catchClause _ body => some body
  | _ => none

def blockItems : Node → List Node
  | block statements => statements
  | classBody members => members
  | _ => []

def bodyStatements (node : Node) : List Node := node.body?.toList.flatMap blockItems

def statementExpression? : Node → Option Node
  | expressionStatement expression => some expression
  | _ => none

def callArguments : Node → List Node
  | call _ arguments | construct _ arguments => arguments
  | _ => []

def listedExpressions : Node → List Node
  | sequence expressions | template _ expressions => expressions
  | _ => []

def total : List Nat → Nat
  | [] => 0
  | size :: sizes => size + total sizes

@[simp] theorem total_nil : total [] = 0 := rfl

@[simp] theorem total_cons (size : Nat) (sizes : List Nat) : total (size :: sizes) = size + total sizes := rfl

@[simp] theorem total_append (sizes others : List Nat) : total (sizes ++ others) = total sizes + total others := by
  induction sizes with
  | nil => simp
  | cons size sizes ih => simp [ih, Nat.add_assoc]

theorem total_size_option (node : Option Node) : total (node.toList.map sizeOf) ≤ sizeOf node := by
  cases node <;> simp

theorem total_size_list (nodes : List Node) : total (nodes.map sizeOf) ≤ sizeOf nodes := by
  induction nodes with
  | nil => simp
  | cons node nodes ih => simp; omega

theorem total_size_present (nodes : List (Option Node)) :
    total ((nodes.filterMap id).map sizeOf) ≤ sizeOf nodes := by
  induction nodes with
  | nil => simp
  | cons node nodes ih =>
    cases node with
    | none =>
      rw [List.filterMap_cons_none rfl]
      simp only [List.cons.sizeOf_spec]
      omega
    | some node =>
      have kept : List.filterMap id (some node :: nodes) = node :: List.filterMap id nodes := rfl
      rw [kept]
      simp only [List.map_cons, total_cons, List.cons.sizeOf_spec, Option.some.sizeOf_spec]
      omega

theorem total_size_children (node : Node) : total (node.children.map sizeOf) < sizeOf node := by
  cases node with
  | array elements | arrayPattern elements =>
    have := total_size_present elements
    simp only [children, array.sizeOf_spec, arrayPattern.sizeOf_spec]
    omega
  | object nodes | objectPattern nodes | classBody nodes | sequence nodes | parameters _ nodes
  | program nodes | block nodes | variableList nodes =>
    have := total_size_list nodes
    simp [children]
    omega
  | call first nodes | construct first nodes | switch first nodes =>
    have := total_size_list nodes
    simp [children]
    omega
  | template parts nodes =>
    have := total_size_list parts
    have := total_size_list nodes
    simp [children]
    omega
  | function _ name nodes _ =>
    have := total_size_option name
    have := total_size_list nodes
    simp [children]
    omega
  | switchCase test nodes =>
    have := total_size_option test
    have := total_size_list nodes
    simp [children]
    omega
  | operand _ part | «break» part | «continue» part =>
    have := total_size_option part
    simp [children]
    omega
  | declarator _ part | conditionalStatement _ _ part =>
    have := total_size_option part
    simp [children]
    omega
  | «class» _ first second _ | «try» _ first second =>
    have := total_size_option first
    have := total_size_option second
    simp [children]
    omega
  | forLoop first second third _ =>
    have := total_size_option first
    have := total_size_option second
    have := total_size_option third
    simp [children]
    omega
  | _ => simp [children]; try omega

theorem size_pos (node : Node) : 0 < sizeOf node := Nat.zero_lt_of_lt (total_size_children node)

theorem size_le_total {nodes : List Node} {node : Node} (member : node ∈ nodes) :
    sizeOf node ≤ total (nodes.map sizeOf) := by
  induction nodes with
  | nil => cases member
  | cons first nodes ih =>
    simp only [List.map_cons, total_cons]
    rcases List.mem_cons.mp member with rfl | later
    · omega
    · have rest := ih later
      omega

theorem statement_expression_smaller {node expression : Node} (whole : node.statementExpression? = some expression) :
    sizeOf expression < sizeOf node := by
  cases node <;> simp [statementExpression?] at whole
  simp [whole]

theorem child_smaller {node child : Node} (member : child ∈ node.children) : sizeOf child < sizeOf node :=
  Nat.lt_of_le_of_lt (size_le_total member) (total_size_children node)

theorem body_child {node body : Node} (own : node.body? = some body) : body ∈ node.children := by
  cases node <;> simp [body?] at own
  all_goals simp [children, own]

theorem body_smaller {node body : Node} (own : node.body? = some body) : sizeOf body < sizeOf node :=
  child_smaller (body_child own)

theorem block_item_smaller {node item : Node} (member : item ∈ node.blockItems) : sizeOf item < sizeOf node := by
  cases node with
  | block items | classBody items =>
    have inner : sizeOf item < sizeOf items := List.sizeOf_lt_of_mem member
    simp
    omega
  | _ => cases member

theorem body_statement_smaller {node statement : Node} (member : statement ∈ node.bodyStatements) :
    sizeOf statement < sizeOf node := by
  simp only [bodyStatements, List.mem_flatMap, Option.mem_toList] at member
  obtain ⟨body, own, inside⟩ := member
  exact Nat.lt_trans (block_item_smaller inside) (body_smaller own)

theorem call_argument_smaller {node argument : Node} (member : argument ∈ node.callArguments) :
    sizeOf argument < sizeOf node := by
  cases node with
  | call callee arguments | construct callee arguments =>
    have inner : sizeOf argument < sizeOf arguments := List.sizeOf_lt_of_mem member
    simp
    omega
  | _ => cases member

theorem listed_expression_smaller {node expression : Node} (member : expression ∈ node.listedExpressions) :
    sizeOf expression < sizeOf node := by
  cases node with
  | sequence expressions | template parts expressions =>
    have inner : sizeOf expression < sizeOf expressions := List.sizeOf_lt_of_mem member
    simp
    omega
  | _ => cases member

end Node

end SchemaRecovery.Script
