import SchemaRecovery.Script.Parse.State

set_option autoImplicit false

namespace SchemaRecovery.Script.Parse

def variableName (kind : Option String) : Parse Node := do
  let token ← next
  let mode ← admits
  if token.kind == .keyword && token.word == "yield" then
    if mode.strict then failAt token .strictReserved
    if !mode.yieldName then unexpected token
  else if token.kind != .name then
    if mode.strict && token.kind == .keyword && isStrictReserved token.word then
      failAt token .strictReserved
    if mode.strict || token.word != "let" || kind != some "var" then unexpected token
  else if mode.await && token.word == "await" then
    unexpected token
  return .identifier token.word

def propertyKey (inner : Inner) : Parse Node := do
  let token ← next
  match token.kind with
  | .text | .number =>
    if (← isStrict) && token.octal then failAt token .octalInStrict
    return .literal token.value token.raw
  | .name | .boolean | .null | .keyword => return .identifier token.word
  | .punctuator =>
    if token.word != "[" then unexpected token
    let key ← isolate inner.assignment
    expect "]"
    return key
  | _ => unexpected token

def patternWithDefault (inner : Inner) (kind : Option String) : Parse (Node × List Token) := do
  let (target, names) ← inner.pattern kind
  if ← accept "=" then
    let value ← admitting (fun mode => { mode with yieldName := true }) (isolate inner.assignment)
    return (.assignmentPattern target value, names)
  else
    return (target, names)

def arrayPatternElements (inner : Inner) (kind : Option String) :
    Nat → Parse (List (Option Node) × List Token)
  | 0 => throw .tooDeep
  | limit + 1 => do
    if ← isAhead "]" then return ([], [])
    if ← accept "," then
      let (elements, names) ← arrayPatternElements inner kind limit
      return (none :: elements, names)
    if ← accept "..." then
      let (target, names) ← inner.pattern kind
      return ([some (.operand .rest target)], names)
    let (element, names) ← patternWithDefault inner kind
    if !(← isAhead "]") then expect ","
    let (elements, more) ← arrayPatternElements inner kind limit
    return (some element :: elements, names ++ more)

def arrayPattern (inner : Inner) (kind : Option String) : Parse (Node × List Token) := do
  expect "["
  let (elements, names) ← arrayPatternElements inner kind inner.limit
  expect "]"
  return (.arrayPattern elements, names)

def restProperty (inner : Inner) : Parse (Node × List Token) := do
  expect "..."
  let (target, names) ← inner.pattern none
  if ← isAhead "=" then fail .restDefault
  if !(← isAhead "\x7d") then fail .unexpectedDeclaration
  return (.operand .rest target, names)

def propertyPattern (inner : Inner) (kind : Option String) : Parse (Node × List Token) := do
  if ← isAhead "..." then return ← restProperty inner
  if ← isKindAhead .name then
    let token ← ahead
    let key ← variableName none
    let name := Node.identifier token.word
    if ← accept "=" then
      let value ← inner.assignment
      return (.property false key (.assignmentPattern name value), [token])
    else if ← accept ":" then
      let (value, names) ← patternWithDefault inner kind
      return (.property false key value, names)
    else
      return (.property false key name, [token])
  else
    let computed ← isAhead "["
    let key ← propertyKey inner
    expect ":"
    let (value, names) ← patternWithDefault inner kind
    return (.property computed key value, names)

def objectPattern (inner : Inner) (kind : Option String) : Parse (Node × List Token) := do
  expect "\x7b"
  let properties ← commaList "\x7d" (propertyPattern inner kind) inner.limit
  expect "\x7d"
  return (.objectPattern (properties.map (·.1)), properties.flatMap (·.2))

def pattern (inner : Inner) (kind : Option String) : Parse (Node × List Token) := do
  if ← isAhead "[" then arrayPattern inner kind
  else if ← isAhead "\x7b" then objectPattern inner kind
  else
    let token ← ahead
    if (← isKeywordAhead "let") && (kind == some "const" || kind == some "let") then
      failAt token .letBinding
    let name ← variableName kind
    return (name, [token])

def restParameter (inner : Inner) : Parse (Node × List Token) := do
  expect "..."
  let (target, names) ← inner.pattern none
  if ← isAhead "=" then fail .restDefault
  if !(← isAhead ")") then fail .restNotLast
  return (.operand .rest target, names)

end SchemaRecovery.Script.Parse
