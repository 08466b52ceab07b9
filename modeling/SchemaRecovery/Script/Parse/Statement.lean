import SchemaRecovery.Script.Parse.Expression

set_option autoImplicit false

namespace SchemaRecovery.Script.Parse

def block (inner : Inner) : Parse Node := do
  expect "\x7b"
  let items ← repeatUntil (isAhead "\x7d") inner.item inner.limit
  expect "\x7d"
  return .block items

def initialValue? (inner : Inner) (kind : String) (inLoop : Bool) (target : Node) :
    Parse (Option Node) := do
  if kind == "const" then
    if (← isKeywordAhead "in") || (← isWordAhead "of") then return none
    if !(← isAhead "=") then fail .missingConstInitializer
  else if inLoop || target.name?.isSome then
    if !(← isAhead "=") then return none
  expect "="
  return some (← isolate inner.assignment)

def declarator (inner : Inner) (kind : String) (inLoop : Bool) : Parse Node := do
  let (target, _) ← inner.pattern (some kind)
  if (← isStrict) && isRestrictedName target then failAhead .strictVariableName
  return .declarator target (← initialValue? inner kind inLoop target)

def declarators (inner : Inner) (kind : String) (inLoop : Bool) : Parse (List Node) := do
  let first ← declarator inner kind inLoop
  let more ← repeatUntil (do return !(← isAhead ","))
    (do let _ ← next; declarator inner kind inLoop) inner.limit
  return first :: more

def declaration (inner : Inner) : Parse Node := do
  let kind ← next
  let nodes ← declarators inner kind.word false
  semicolon
  return .variableList nodes

def startsLet : Parse Bool := do
  let token ← peekBeyond
  match token.kind with
  | .name => return true
  | .punctuator => return token.word == "[" || token.word == "\x7b"
  | .keyword => return token.word == "let" || token.word == "yield"
  | _ => return false

def expressionStatement (inner : Inner) : Parse Node := do
  let body ← expression inner
  semicolon
  return .expressionStatement body

def parenthesized (inner : Inner) : Parse Node := do
  expect "("
  let node ← expression inner
  expect ")"
  return node

def branch (inner : Inner) : Parse Node := do
  if (← isStrict) && (← isKeywordAhead "function") then failAhead .strictFunction
  inner.statement

def conditionalStatement (inner : Inner) : Parse Node := do
  expectKeyword "if"
  let test ← parenthesized inner
  let consequent ← branch inner
  let alternate ← if ← isKeywordAhead "else" then do
      let _ ← next
      let node ← branch inner
      pure (some node)
    else pure none
  return .conditionalStatement test consequent alternate

def loopBody (parse : Parse Node) : Parse Node :=
  within (fun around => { around with inLoop := true }) parse

def doWhileLoop (inner : Inner) : Parse Node := do
  expectKeyword "do"
  let body ← loopBody inner.statement
  expectKeyword "while"
  let test ← parenthesized inner
  let _ ← accept ";"
  return .doWhileLoop body test

def whileLoop (inner : Inner) : Parse Node := do
  expectKeyword "while"
  let test ← parenthesized inner
  let body ← loopBody inner.statement
  return .whileLoop test body

inductive LoopHead where
  | parts (start : Option Node)
  | keys (left right : Node)
  | values (left right : Node)

def hasInit : Node → Bool
  | .declarator _ value => value.isSome
  | _ => false

def hasPatternTarget : Node → Bool
  | .declarator (.arrayPattern _) _ | .declarator (.objectPattern _) _ => true
  | _ => false

def keysHead (inner : Inner) (left : Node) : Parse LoopHead := do
  let _ ← next
  return .keys left (← expression inner)

def valuesHead (inner : Inner) (left : Node) : Parse LoopHead := do
  let _ ← next
  return .values left (← inner.assignment)

def varHead (inner : Inner) : Parse LoopHead := do
  let _ ← next
  let nodes ← allowingIn false (declarators inner "var" true)
  match nodes with
  | [node] =>
    if ← isKeywordAhead "in" then
      if hasInit node && (hasPatternTarget node || (← isStrict)) then failAhead .loopInitializer
      return ← keysHead inner (.variableList nodes)
    if !hasInit node && (← isWordAhead "of") then return ← valuesHead inner (.variableList nodes)
  | _ => pure ()
  expect ";"
  return .parts (some (.variableList nodes))

def lexicalHead (inner : Inner) : Parse LoopHead := do
  let kind ← next
  if !(← isStrict) && (← ahead).word == "in" then
    return ← keysHead inner (.identifier kind.word)
  let nodes ← allowingIn false (declarators inner kind.word true)
  match nodes with
  | [node] =>
    if !hasInit node && (← isKeywordAhead "in") then return ← keysHead inner (.variableList nodes)
    if !hasInit node && (← isWordAhead "of") then return ← valuesHead inner (.variableList nodes)
  | _ => pure ()
  semicolon
  return .parts (some (.variableList nodes))

def isAssignment : Node → Bool
  | .assignment .. => true
  | _ => false

def expressionHead (inner : Inner) : Parse LoopHead := do
  let start ← allowingIn false (inheriting inner.assignment)
  let refused := !(← get).cover.assignable || isAssignment start
  if ← isKeywordAhead "in" then
    if refused then failAhead .badForInTarget
    keysHead inner (asPattern start)
  else if ← isWordAhead "of" then
    if refused then failAhead .badForOfTarget
    valuesHead inner (asPattern start)
  else
    let node ← if ← isAhead "," then do
        let more ← repeatUntil (do return !(← isAhead ","))
          (do let _ ← next; isolate inner.assignment) inner.limit
        pure (Node.sequence (start :: more))
      else pure start
    expect ";"
    return .parts (some node)

def loopHead (inner : Inner) : Parse LoopHead := do
  if ← accept ";" then return .parts none
  if ← isKeywordAhead "var" then varHead inner
  else if (← isKeywordAhead "const") || (← isKeywordAhead "let") then lexicalHead inner
  else expressionHead inner

def unlessAhead (inner : Inner) (punctuator : String) : Parse (Option Node) := do
  if ← isAhead punctuator then return none else return some (← expression inner)

def forStatement (inner : Inner) : Parse Node := do
  expectKeyword "for"
  expect "("
  let head ← loopHead inner
  let body : Parse Node := do
    expect ")"
    loopBody (isolate inner.statement)
  match head with
  | .keys left right => return .forIn left right (← body)
  | .values left right => return .forOf left right (← body)
  | .parts start =>
    let test ← unlessAhead inner ";"
    expect ";"
    let update ← unlessAhead inner ")"
    return .forLoop start test update (← body)

def jumpLabel : Parse (Option String) := do
  let state ← get
  if state.ahead.kind == .name && !state.newline then
    let token ← ahead
    let _ ← variableName none
    if !(← around).labels.contains token.word then fail (.undefinedLabel token.word)
    return some token.word
  else
    return none

def continueStatement : Parse Node := do
  expectKeyword "continue"
  let label ← jumpLabel
  semicolon
  if label.isNone && !(← around).inLoop then fail .illegalContinue
  return .continue (label.map .identifier)

def breakStatement : Parse Node := do
  expectKeyword "break"
  let label ← jumpLabel
  semicolon
  let around ← around
  if label.isNone && !around.inLoop && !around.inSwitch then fail .illegalBreak
  return .break (label.map .identifier)

def returnStatement (inner : Inner) : Parse Node := do
  if !(← around).inFunction then failAhead .illegalReturn
  expectKeyword "return"
  let state ← get
  let ends := (← anyAhead [";", "\x7d"]) || state.newline || state.ahead.kind == .endOfText
  let argument ← if !ends || state.ahead.kind == .text || state.ahead.kind == .template then do
      let node ← expression inner
      pure (some node)
    else pure none
  semicolon
  return .operand .return argument

def withStatement (inner : Inner) : Parse Node := do
  if ← isStrict then failAhead .strictWith
  expectKeyword "with"
  let scope ← parenthesized inner
  return .withStatement scope (← inner.statement)

def switchCase (inner : Inner) : Parse (Node × Bool) := do
  let isDefault ← isKeywordAhead "default"
  let test ← if isDefault then do
      let _ ← next
      pure none
    else do
      expectKeyword "case"
      let node ← expression inner
      pure (some node)
  expect ":"
  let stop := do
    return (← isAhead "\x7d") || (← isKeywordAhead "default") || (← isKeywordAhead "case")
  let items ← repeatUntil stop inner.item inner.limit
  return (.switchCase test items, isDefault)

def switchCases (inner : Inner) (hasDefault : Bool) : Nat → Parse (List Node)
  | 0 => throw .tooDeep
  | limit + 1 => do
    if ← isAhead "\x7d" then return []
    let (clause, isDefault) ← switchCase inner
    if isDefault && hasDefault then fail .secondDefault
    return clause :: (← switchCases inner (hasDefault || isDefault) limit)

def switchStatement (inner : Inner) : Parse Node := do
  expectKeyword "switch"
  let discriminant ← parenthesized inner
  within (fun around => { around with inSwitch := true }) do
    expect "\x7b"
    let cases ← switchCases inner false inner.limit
    expect "\x7d"
    return .switch discriminant cases

def labeledBody (inner : Inner) : Parse Node := do
  if ← isKeywordAhead "class" then unexpected (← ahead)
  if ← isKeywordAhead "function" then
    let token ← ahead
    let (node, generator) ← functionDeclaration inner
    if ← isStrict then failAt token .strictFunction
    if generator then failAt token .labeledGenerator
    return node
  else
    inner.statement

def labeledStatement (inner : Inner) : Parse Node := do
  let body ← expression inner
  match body with
  | .identifier name =>
    if ← accept ":" then
      let labels := (← around).labels
      if labels.contains name then fail (.redeclaredLabel name)
      let node ← within (fun around => { around with labels := name :: labels }) (labeledBody inner)
      return .labeled body node
  | _ => pure ()
  semicolon
  return .expressionStatement body

def throwStatement (inner : Inner) : Parse Node := do
  expectKeyword "throw"
  if (← get).newline then fail .newlineAfterThrow
  let node ← expression inner
  semicolon
  return .operand .throw node

def firstDuplicate? : List String → List String → Option String
  | _, [] => none
  | seen, name :: names =>
    if seen.contains name then some name else firstDuplicate? (name :: seen) names

def catchClause (inner : Inner) : Parse Node := do
  expectKeyword "catch"
  expect "("
  if ← isAhead ")" then unexpected (← ahead)
  let (param, names) ← inner.pattern none
  if let some name := firstDuplicate? [] (names.map (·.word)) then failAhead (.duplicateBinding name)
  if (← isStrict) && isRestrictedName param then failAhead .strictCatchVariable
  expect ")"
  return .catchClause param (← block inner)

def tryStatement (inner : Inner) : Parse Node := do
  expectKeyword "try"
  let tried ← block inner
  let handler ← if ← isKeywordAhead "catch" then do
      let node ← catchClause inner
      pure (some node)
    else pure none
  let finalizer ← if ← isKeywordAhead "finally" then do
      let _ ← next
      let node ← block inner
      pure (some node)
    else pure none
  if handler.isNone && finalizer.isNone then fail .lonelyTry
  return .try tried handler finalizer

def keywordStatement (inner : Inner) (word : String) : Parse Node := do
  match word with
  | "break" => breakStatement
  | "continue" => continueStatement
  | "debugger" =>
    let _ ← next
    semicolon
    return .leaf .debugger
  | "do" => doWhileLoop inner
  | "for" => forStatement inner
  | "function" => return (← functionDeclaration inner).1
  | "if" => conditionalStatement inner
  | "return" => returnStatement inner
  | "switch" => switchStatement inner
  | "throw" => throwStatement inner
  | "try" => tryStatement inner
  | "var" => declaration inner
  | "while" => whileLoop inner
  | "with" => withStatement inner
  | _ => expressionStatement inner

def statement (inner : Inner) : Parse Node := do
  let token ← ahead
  match token.kind with
  | .boolean | .null | .number | .text | .template | .pattern => expressionStatement inner
  | .punctuator =>
    if token.word == "\x7b" then block inner
    else if token.word == ";" then
      let _ ← next
      return .leaf .empty
    else expressionStatement inner
  | .name =>
    if ← startsAsyncFunction then return (← functionDeclaration inner).1
    else labeledStatement inner
  | .keyword => keywordStatement inner token.word
  | .endOfText => unexpected token

def item (inner : Inner) : Parse Node := do
  setCover fun cover => { cover with assignable := true, bindable := true }
  let token ← ahead
  if token.kind != .keyword then return ← statement inner
  match token.word with
  | "export" => failAt token .unexpectedDeclaration
  | "import" =>
    if ← startsImportCall then expressionStatement inner
    else failAt token .unexpectedDeclaration
  | "const" => declaration inner
  | "function" => return (← functionDeclaration inner).1
  | "class" => classDeclaration inner
  | "let" => if ← startsLet then declaration inner else statement inner
  | _ => statement inner

end SchemaRecovery.Script.Parse
