import SchemaRecovery.Script.Node

set_option autoImplicit false

namespace SchemaRecovery.Script

def boolText (b : Bool) : String := if b then "True" else "False"

namespace Node

def stringValue? : Node → Option String
  | literal (.text value) _ => some value
  | _ => none

def memberName (computed : Bool) (key : Node) : Option String :=
  if computed then key.stringValue? else key.name?

def memberName? : Node → Option String
  | member computed _ key => memberName computed key
  | _ => none

def text : Node → String
  | identifier name => name
  | literal _ raw => raw
  | member computed target key =>
    match memberName computed key with
    | none => target.text ++ "[...]"
    | some name => target.text ++ "." ++ name
  | call callee _ => callee.text ++ "(...)"
  | unary operator argument => operator ++ argument.text
  | binary operator left right =>
    if operator = "&&" ∨ operator = "||" then "<LogicalExpression>"
    else left.text ++ " " ++ operator ++ " " ++ right.text
  | node => "<" ++ node.typeName ++ ">"

def textOr (node? : Option Node) : String := (node?.map text).getD "None"

def propertyKey? : Node → Option String
  | property computed key _ =>
    match key with
    | identifier name => if computed then none else some name
    | literal (.text value) _ => some value
    | literal (.number value) _ => some value.text
    | literal (.boolean value) _ => some (boolText value)
    | literal (.pattern value) _ => some value.text
    | _ => none
  | _ => none

def propertyValue? : Node → Option Node
  | property _ _ value => some value
  | _ => none

def integer? : Node → Option Int
  | literal (.number (.whole n)) _ => some n
  | unary operator argument =>
    if operator = "-" then argument.integer?.map (- ·)
    else if operator = "+" then argument.integer?
    else none
  | _ => none

end Node

end SchemaRecovery.Script
