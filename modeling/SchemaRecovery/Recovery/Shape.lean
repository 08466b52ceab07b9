import SchemaRecovery.Schema.Definition
import SchemaRecovery.Script.Expression

set_option autoImplicit false

namespace SchemaRecovery.Recovery

open Script (Node)

structure Assignment where
  target : Node
  property : String
  value : Node

def assignment? : Node → Option Assignment
  | .assignment operator (.member computed target key) value =>
    match Node.memberName computed key with
    | none => none
    | some property => if operator = "=" ∧ property ≠ "" then some ⟨target, property, value⟩ else none
  | _ => none

structure Application where
  callee : Node
  argument : Node

def application? : Node → Option Application
  | .call callee [argument] => some ⟨callee, argument⟩
  | _ => none

structure TableToken where
  table : String
  name : String

def tableToken? : Node → Option TableToken
  | .member computed (.member innerComputed _ innerKey) key => do
    let table ← Node.memberName innerComputed innerKey
    let name ← Node.memberName computed key
    some ⟨table, name⟩
  | _ => none

def orLeavesStack : List Node → List Node
  | [] => []
  | .binary operator left right :: stack =>
    if operator = "|" then orLeavesStack (left :: right :: stack)
    else .binary operator left right :: orLeavesStack stack
  | node :: stack => node :: orLeavesStack stack
termination_by stack => Node.total (stack.map sizeOf)
decreasing_by
  all_goals simp only [List.map_cons, Node.total_cons, Node.binary.sizeOf_spec]
  · omega
  · omega
  · have := Node.size_pos node
    omega

def orLeaves (node : Node) : List Node := orLeavesStack [node]

inductive Expected where
  | entry
  | length
  | tag
deriving Repr, DecidableEq

def Expected.text : Expected → String
  | entry => "[tag, type, ref?] array"
  | length => "array of two or three elements"
  | tag => "integer field tag"

structure Misshapen where
  expected : Expected
  found : String
deriving Repr, DecidableEq

def Misshapen.message (misshapen : Misshapen) : String :=
  "expected " ++ misshapen.expected.text ++ ", found " ++ misshapen.found

structure FieldEntry where
  tag : Int
  type : Option Node
  reference : Option Node

def entryOf (tag type reference : Option Node) : Except Misshapen FieldEntry :=
  match tag.bind (·.integer?) with
  | none => .error ⟨.tag, Node.textOr tag⟩
  | some n => .ok ⟨n, type, reference⟩

def fieldEntry (node : Node) : Except Misshapen FieldEntry :=
  match node with
  | .array [tag, type] => entryOf tag type none
  | .array [tag, type, reference] => entryOf tag type reference
  | .array _ => .error ⟨.length, node.text⟩
  | _ => .error ⟨.entry, node.text⟩

def enumValue? (property : Node) : Option Schema.EnumValue := do
  let name ← property.propertyKey?
  let value ← property.propertyValue?
  some ⟨name, ← value.integer?⟩

def enumValues? : Node → Option (List Schema.EnumValue)
  | .object (first :: rest) => (first :: rest).mapM enumValue?
  | _ => none

end SchemaRecovery.Recovery
