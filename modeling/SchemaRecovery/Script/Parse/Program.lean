import SchemaRecovery.Script.Parse.Statement

set_option autoImplicit false

namespace SchemaRecovery.Script.Parse

-- As deep as a stack of a thousand calls goes, of which an expression in parentheses takes
-- seventeen.
def nestingLimit : Nat := 58

def Inner.ofDepth (limit : Nat) : Nat → Inner
  | 0 =>
    { limit := limit
      assignment := throw .tooDeep
      exponentiation := throw .tooDeep
      unary := throw .tooDeep
      callChain := throw .tooDeep
      memberChain := throw .tooDeep
      pattern := fun _ => throw .tooDeep
      statement := throw .tooDeep
      item := throw .tooDeep }
  | depth + 1 =>
    let inner := Inner.ofDepth limit depth
    { limit := limit
      assignment := Parse.assignment inner
      exponentiation := Parse.exponentiation inner
      unary := Parse.unary inner
      callChain := Parse.callChain inner
      memberChain := Parse.memberChain inner
      pattern := Parse.pattern inner
      statement := Parse.statement inner
      item := Parse.item inner }

def program (inner : Inner) : Parse Node := do
  let opening ← directives inner none inner.limit
  let items ← repeatUntil (isKindAhead .endOfText) inner.item inner.limit
  return .program (opening ++ items)

def State.ofText (text : List Char) : Except Fault State := do
  let first ← (Cursor.ofText text).skip
  let (token, scanner) ← Scanner.token ⟨first, []⟩
  let last := Mark.ofPlace scanner.cursor.place
  return ⟨scanner, token, first, token.line != (Cursor.ofText text).place.line, last, {}, {}, {}⟩

end SchemaRecovery.Script.Parse

namespace SchemaRecovery.Script

def parse (source : String) : Except Fault Node := do
  let text := source.toList
  let inner := Parse.Inner.ofDepth (text.length + 2) Parse.nestingLimit
  let (node, _) ← (Parse.program inner).run (← Parse.State.ofText text)
  return node

end SchemaRecovery.Script
