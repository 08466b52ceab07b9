import SchemaRecovery.Script.Parse.Arrow

set_option autoImplicit false

namespace SchemaRecovery.Script.Parse

def allowingIn {α : Type} (allowed : Bool) (parse : Parse α) : Parse α := do
  let before := (← admits).inOperator
  modify fun state => { state with admits := { state.admits with inOperator := allowed } }
  let result ← parse
  modify fun state => { state with admits := { state.admits with inOperator := before } }
  return result

def startsAsyncFunction : Parse Bool := do
  if !(← isWordAhead "async") then return false
  let line := (← get).scanner.cursor.place.line
  let token ← peekBeyond
  return token.line == line && token.kind == .keyword && token.word == "function"

def startsImportCall : Parse Bool := do
  if !(← isKeywordAhead "import") then return false
  let token ← peekBeyond
  return token.kind == .punctuator && token.word == "("

def templatePart : Parse Token := do
  let token ← ahead
  if token.kind != .template then fail .illegal
  next

def templateParts (inner : Inner) : Nat → Parse (List Node)
  | 0 => throw .tooDeep
  | limit + 1 => do
    let value ← expression inner
    let part ← templatePart
    if part.closes then return [value] else return value :: (← templateParts inner limit)

def template (inner : Inner) : Parse Node := do
  if !(← ahead).opens then throw .headlessTemplate
  let head ← next
  let values ← if head.closes then pure [] else templateParts inner inner.limit
  return .template (List.replicate (values.length + 1) (.leaf .templatePart)) values

def literal : Parse Node := do
  let token ← next
  return .literal token.value token.raw

def punctuatedPrimary (inner : Inner) : Parse Node := do
  if ← isAhead "(" then
    setCover fun cover => { cover with bindable := false }
    inheriting (group inner)
  else if ← isAhead "[" then inheriting (arrayLiteral inner)
  else if ← isAhead "\x7b" then inheriting (objectLiteral inner)
  else if ← anyAhead ["/", "/="] then
    markValue
    let token ← nextPattern
    return .literal token.value token.raw
  else unexpected (← next)

def keywordPrimary (inner : Inner) : Parse Node := do
  let mode ← admits
  if !mode.strict && mode.yieldName && (← isKeywordAhead "yield") then return ← nameWord
  if !mode.strict && (← isKeywordAhead "let") then return .identifier (← next).word
  markValue
  if ← isKeywordAhead "function" then functionExpression inner
  else if ← isKeywordAhead "this" then
    let _ ← next
    return .leaf .this
  else if ← isKeywordAhead "class" then classExpression inner
  else if ← startsImportCall then
    let _ ← next
    return .leaf .importer
  else unexpected (← next)

def primary (inner : Inner) : Parse Node := do
  let token ← ahead
  match token.kind with
  | .name =>
    if (← admits).await && token.word == "await" then unexpected token
    if ← startsAsyncFunction then functionExpression inner
    else return .identifier (← next).word
  | .number | .text =>
    if (← isStrict) && token.octal then failAt token .octalInStrict
    markValue
    literal
  | .boolean | .null =>
    markValue
    literal
  | .template => template inner
  | .punctuator => punctuatedPrimary inner
  | .keyword => keywordPrimary inner
  | .pattern | .endOfText => unexpected (← next)

def argument (inner : Inner) : Parse Node := do
  if ← isAhead "..." then spread inner else isolate inner.assignment

def openArgument (inner : Inner) : Parse Node := do
  if ← isAhead "..." then spread inner
  else isolate do
    let node ← inner.assignment
    setCover fun cover => { cover with fault := none }
    return node

def arguments (inner : Inner) (argument : Parse Node) : Parse (List Node) := do
  expect "("
  let nodes ← commaList ")" argument inner.limit
  expect ")"
  return nodes

def construction (inner : Inner) : Parse Node := do
  let word ← nameWord
  if ← accept "." then
    if (← isWordAhead "target") && (← around).inFunction then
      return .metaProperty word (← nameWord)
    else unexpected (← ahead)
  else if ← isKeywordAhead "import" then unexpected (← ahead)
  else
    let callee ← isolate inner.memberChain
    let nodes ← if ← isAhead "(" then arguments inner (argument inner) else pure []
    markValue
    return .construct callee nodes

def constructionOrPrimary (inner : Inner) : Parse Node := do
  inheriting (if ← isKeywordAhead "new" then construction inner else primary inner)

def chainStart (inner : Inner) (after : List String) : Parse Node := do
  if (← isKeywordAhead "super") && (← around).inFunction then
    let _ ← next
    if !(← anyAhead after) then unexpected (← ahead)
    return .leaf .super
  else
    constructionOrPrimary inner

def dotMember (node : Node) : Parse Node := do
  markTarget
  expect "."
  return .member false node (← nameWord)

def bracketMember (inner : Inner) (node : Node) : Parse Node := do
  markTarget
  expect "["
  let key ← isolate (expression inner)
  expect "]"
  return .member true node key

def isImporter : Node → Bool
  | .leaf .importer => true
  | _ => false

def callLink (inner : Inner) (async : Option Token) (node : Node) : Parse Node := do
  let token ← ahead
  let mayBeArrow := async.any (·.line == token.line)
  markValue
  let nodes ← arguments inner (if mayBeArrow then openArgument inner else argument inner)
  if isImporter node && nodes.length != 1 then failAhead .unexpectedDeclaration
  if mayBeArrow && (← isAhead "=>") then return .parameters true (nodes.map asPattern)
  return .call node nodes

def chainLinks (inner : Inner) (calls : Option (Node → Parse Node)) (node : Node) : Nat → Parse Node
  | 0 => throw .tooDeep
  | limit + 1 => do
    if ← isAhead "." then chainLinks inner calls (← dotMember node) limit
    else if ← isAhead "[" then chainLinks inner calls (← bracketMember inner node) limit
    else if (← ahead).opens then
      let quasi ← template inner
      chainLinks inner calls (.taggedTemplate node quasi) limit
    else
      match calls with
      | some call => if ← isAhead "(" then chainLinks inner calls (← call node) limit else return node
      | none => return node

def memberChain (inner : Inner) : Parse Node := do
  let first ← chainStart inner ["[", "."]
  chainLinks inner none first inner.limit

def callChain (inner : Inner) : Parse Node := do
  let token ← ahead
  let async := if token.kind == .name && token.word == "async" then some token else none
  allowingIn true do
    let first ← chainStart inner ["(", ".", "["]
    chainLinks inner (some (callLink inner async)) first inner.limit

def isRestrictedName (node : Node) : Bool := node.name?.any isRestricted

def update (inner : Inner) : Parse Node := do
  if ← anyAhead ["++", "--"] then
    let _ ← next
    let node ← inheriting inner.unary
    if (← isStrict) && isRestrictedName node then failAhead .strictIncrementBefore
    if !(← get).cover.assignable then failAhead .badAssignmentTarget
    markValue
    return .operand .update node
  else
    let node ← inheriting (callChain inner)
    if !(← get).newline && (← anyAhead ["++", "--"]) then
      if (← isStrict) && isRestrictedName node then failAhead .strictIncrementAfter
      if !(← get).cover.assignable then failAhead .badAssignmentTarget
      markValue
      let _ ← next
      return .operand .update node
    else
      return node

def isUnaryOperator (token : Token) : Bool :=
  match token.kind with
  | .punctuator => ["+", "-", "~", "!"].contains token.word
  | .keyword => ["delete", "void", "typeof"].contains token.word
  | _ => false

def unary (inner : Inner) : Parse Node := do
  if isUnaryOperator (← ahead) then
    let token ← next
    let node ← inheriting inner.unary
    if (← isStrict) && token.word == "delete" && node.name?.isSome then failAhead .strictDelete
    markValue
    return .unary token.word node
  else if (← admits).await && (← isWordAhead "await") then
    let _ ← next
    return .operand .await (← inner.unary)
  else
    update inner

def isUnary : Node → Bool
  | .unary .. => true
  | _ => false

def exponentiation (inner : Inner) : Parse Node := do
  let node ← inheriting (unary inner)
  if !isUnary node && (← isAhead "**") then
    let _ ← next
    markValue
    return .binary "**" node (← isolate inner.exponentiation)
  else
    return node

def operatorAhead : Parse Nat := do
  let token ← ahead
  match token.kind with
  | .punctuator => return binaryPrecedence token.word
  | .keyword =>
    let isOperator := token.word == "instanceof" || (token.word == "in" && (← admits).inOperator)
    return if isOperator then 7 else 0
  | _ => return 0

structure Waiting where
  left : Node
  operator : String
  precedence : Nat

def reduce (precedence : Nat) : List Waiting → Node → List Waiting × Node
  -- Completes the operations that bind at least as tightly as an operator with the given
  -- precedence; the innermost one stands first.
  | [], right => ([], right)
  | first :: pending, right =>
    if precedence ≤ first.precedence then
      reduce precedence pending (.binary first.operator first.left right)
    else
      (first :: pending, right)

def operations (inner : Inner) (pending : List Waiting) (right : Node) : Nat → Parse Node
  | 0 => throw .tooDeep
  | limit + 1 => do
    let precedence ← operatorAhead
    let (pending, left) := reduce precedence pending right
    if precedence = 0 then return left
    let token ← next
    let right ← isolate (exponentiation inner)
    operations inner (⟨left, token.word, precedence⟩ :: pending) right limit

def binary (inner : Inner) : Parse Node := do
  let first ← inheriting (exponentiation inner)
  if (← operatorAhead) = 0 then return first
  let precedence ← operatorAhead
  let token ← next
  markValue
  let right ← isolate (exponentiation inner)
  operations inner [⟨first, token.word, precedence⟩] right inner.limit

def conditional (inner : Inner) : Parse Node := do
  let test ← inheriting (binary inner)
  if ← accept "?" then
    let consequent ← allowingIn true (isolate inner.assignment)
    expect ":"
    let alternate ← isolate inner.assignment
    markValue
    return .conditional test consequent alternate
  else
    return test

def startsExpression (token : Token) : Bool :=
  match token.kind with
  | .punctuator => ["[", "(", "\x7b", "+", "-", "!", "~", "++", "--", "/", "/="].contains token.word
  | .keyword =>
    ["class", "delete", "function", "let", "new", "super", "this", "typeof", "void",
      "yield"].contains token.word
  | _ => true

def yieldExpression (inner : Inner) : Parse Node := do
  expectKeyword "yield"
  if (← get).newline then return .operand .yield none
  let before := (← admits).yieldName
  modify fun state => { state with admits := { state.admits with yieldName := false } }
  let delegates ← accept "*"
  let argument ← if delegates || startsExpression (← ahead) then do
      let node ← inner.assignment
      pure (some node)
    else pure none
  modify fun state => { state with admits := { state.admits with yieldName := before } }
  return .operand .yield argument

def asyncParameter (inner : Inner) (token : Token) (node : Node) : Parse Node := do
  let following ← ahead
  let follows := following.kind == .name || (following.kind == .keyword && following.word == "yield")
  if token.kind == .name && token.word == "async" && token.line == following.line && follows then
    let param ← primary inner
    return .parameters true [asPattern param]
  else
    return node

def assignmentRest (inner : Inner) (token : Token) (node : Node) : Parse Node := do
  if !(← anyAhead assignmentOperators) then return node
  if !(← get).cover.assignable then failAhead .badAssignmentTarget
  if ← isStrict then
    match node with
    | .identifier name =>
      if isRestricted name then failAt token .strictAssignment
      if isStrictReserved name then failAt token .strictReserved
    | _ => pure ()
  let plain ← isAhead "="
  if !plain then markValue
  let operator ← next
  let right ← isolate inner.assignment
  setCover fun cover => { cover with fault := none }
  return .assignment operator.word (if plain then asPattern node else node) right

def assignment (inner : Inner) : Parse Node := do
  if !(← admits).yieldName && (← isKeywordAhead "yield") then return ← yieldExpression inner
  let token ← ahead
  let node ← conditional inner
  let node ← asyncParameter inner token node
  match node with
  | .parameters async params =>
    markValue
    arrowFunction inner async params
  | _ =>
    if ← isAhead "=>" then
      markValue
      match node with
      | .identifier _ => arrowFunction inner false [node]
      | _ => return node
    else
      assignmentRest inner token node

end SchemaRecovery.Script.Parse
