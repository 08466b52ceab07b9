import SchemaRecovery.Script.Token.Scan

set_option autoImplicit false

namespace SchemaRecovery.Script.Parse

structure Mark where
  index : Nat
  line : Nat
  column : Int

def Mark.ofPlace (place : Place) : Mark := ⟨place.index, place.line, place.column⟩

structure Cover where
  -- An expression may turn out to be an assignment target or a list of bindings only later;
  -- `fault` is the default value that is wrong unless it does.
  fault : Option Token := none
  assignable : Bool := true
  bindable : Bool := true

structure Admits where
  await : Bool := false
  yieldName : Bool := true
  inOperator : Bool := true
  strictDirective : Bool := true
  strict : Bool := false

structure Surroundings where
  inFunction : Bool := false
  inLoop : Bool := false
  inSwitch : Bool := false
  labels : List String := []

structure State where
  scanner : Scanner
  ahead : Token
  first : Cursor
  newline : Bool
  last : Mark
  cover : Cover := {}
  admits : Admits := {}
  around : Surroundings := {}

end SchemaRecovery.Script.Parse

namespace SchemaRecovery.Script

abbrev Parse := StateT Parse.State (Except Fault)

namespace Parse

def admits : Parse Admits := do return (← get).admits

def around : Parse Surroundings := do return (← get).around

def isStrict : Parse Bool := do return (← get).admits.strict

def setStrict (strict : Bool) : Parse Unit :=
  modify fun state => { state with admits := { state.admits with strict := strict } }

def admitting {α : Type} (change : Admits → Admits) (parse : Parse α) : Parse α := do
  let before ← admits
  modify fun state => { state with admits := change state.admits }
  let result ← parse
  modify fun state => { state with admits := before }
  return result

def within {α : Type} (change : Surroundings → Surroundings) (parse : Parse α) : Parse α := do
  let before ← around
  modify fun state => { state with around := change state.around }
  let result ← parse
  modify fun state => { state with around := before }
  return result

def fail {α : Type} (complaint : Complaint) : Parse α := do
  let last := (← get).last
  throw (.refused last.line (last.column + 1) complaint)

def failAhead {α : Type} (complaint : Complaint) : Parse α := do
  -- In the column after the last token, on the line that the foresight has reached.
  let state ← get
  throw (.refused state.scanner.cursor.place.line (state.last.column + 1) complaint)

def Token.complaint (strict : Bool) (token : Token) : Complaint :=
  match token.kind with
  | .endOfText => .unexpectedEnd
  | .name => .unexpectedIdentifier
  | .number => .unexpectedNumber
  | .text => .unexpectedString
  | .template => .unexpectedTemplate token.word
  | .keyword =>
    if futureReserved.contains token.word then .unexpectedReserved
    else if strict && isStrictReserved token.word then .strictReserved
    else .unexpectedToken token.word
  | _ => .unexpectedToken token.word

def failAt {α : Type} (token : Token) (complaint : Complaint) : Parse α := do
  -- At a token; its column counts from the start of the line on which the last token ended.
  let last := (← get).last
  let lineStart : Int := last.index - last.column
  throw (.refused token.line (token.start - lineStart + 1) complaint)

def unexpected {α : Type} (token : Token) : Parse α := do
  failAt token (Token.complaint (← isStrict) token)

def ahead : Parse Token := do return (← get).ahead

def Token.inMode (strict : Bool) (token : Token) : Token :=
  -- In strict code the words reserved for it are keywords from the moment they are scanned.
  if strict && token.kind == .name && isStrictReserved token.word then
    { token with kind := .keyword }
  else
    token

def consume (token : Token) : Parse Token := do
  let state ← get
  let first ← state.scanner.cursor.skip
  let (following, scanner) ← Scanner.token { state.scanner with cursor := first }
  set { state with
    scanner := scanner
    ahead := Token.inMode state.admits.strict following
    first := first
    newline := token.line != following.line
    last := .ofPlace state.scanner.cursor.place }
  return token

def next : Parse Token := do consume (← ahead)

def nextPattern : Parse Token := do
  let (token, stop) ← scanPattern (← get).first
  modify fun state => { state with scanner := { state.scanner with cursor := stop } }
  consume token

def isAhead (punctuator : String) : Parse Bool := do
  let token ← ahead
  return token.kind == .punctuator && token.word == punctuator

def isKeywordAhead (word : String) : Parse Bool := do
  let token ← ahead
  return token.kind == .keyword && token.word == word

def isWordAhead (word : String) : Parse Bool := do
  let token ← ahead
  return token.kind == .name && token.word == word

def isKindAhead (kind : TokenKind) : Parse Bool := do return (← ahead).kind == kind

def anyAhead (words : List String) : Parse Bool := do
  let token ← ahead
  return token.kind == .punctuator && words.contains token.word

def accept (punctuator : String) : Parse Bool := do
  if ← isAhead punctuator then
    let _ ← next
    return true
  else
    return false

def expect (punctuator : String) : Parse Unit := do
  let token ← next
  if token.kind != .punctuator || token.word != punctuator then unexpected token

def expectKeyword (word : String) : Parse Unit := do
  let token ← next
  if token.kind != .keyword || token.word != word then unexpected token

def peekBeyond : Parse Token := do
  let (token, scanner) ← (← get).scanner.peek
  modify fun state => { state with scanner := scanner }
  return token

def semicolon : Parse Unit := do
  if ← accept ";" then return ()
  let state ← get
  if !state.newline then
    if state.ahead.kind != .endOfText && !(← isAhead "\x7d") then unexpected state.ahead
    modify fun state => { state with last := .ofPlace state.first.place }

def setCover (change : Cover → Cover) : Parse Unit :=
  modify fun state => { state with cover := change state.cover }

def markValue : Parse Unit :=
  setCover fun cover => { cover with assignable := false, bindable := false }

def markTarget : Parse Unit :=
  setCover fun cover => { cover with assignable := true, bindable := false }

def isolate {α : Type} (parse : Parse α) : Parse α := do
  let before := (← get).cover
  setCover fun _ => {}
  let result ← parse
  if let some token := (← get).cover.fault then unexpected token
  setCover fun _ => before
  return result

def inheriting {α : Type} (parse : Parse α) : Parse α := do
  let before := (← get).cover
  setCover fun _ => {}
  let result ← parse
  setCover fun inner =>
    { fault := before.fault <|> inner.fault
      assignable := inner.assignable && before.assignable
      bindable := inner.bindable && before.bindable }
  return result

structure Inner where
  -- Parsers of constructs that may nest, for the constructs inside a given one. `limit` bounds
  -- the number of items in any list: no list is longer than the source.
  limit : Nat
  assignment : Parse Node
  exponentiation : Parse Node
  unary : Parse Node
  callChain : Parse Node
  memberChain : Parse Node
  pattern : Option String → Parse (Node × List Token)
  statement : Parse Node
  item : Parse Node

def repeatUntil {α : Type} (stop : Parse Bool) (item : Parse α) : Nat → Parse (List α)
  | 0 => throw .tooDeep
  | limit + 1 => do
    if ← stop then return []
    let first ← item
    return first :: (← repeatUntil stop item limit)

def commaList {α : Type} (close : String) (item : Parse α) : Nat → Parse (List α)
  | 0 => throw .tooDeep
  | limit + 1 => do
    if ← isAhead close then return []
    let first ← item
    if !(← isAhead close) then expect ","
    return first :: (← commaList close item limit)

def expression (inner : Inner) : Parse Node := do
  let first ← isolate inner.assignment
  if ← isAhead "," then
    let stop := do return !(← isAhead ",")
    let more ← repeatUntil stop (do let _ ← next; isolate inner.assignment) inner.limit
    return .sequence (first :: more)
  else
    return first

def isNameWord (token : Token) : Bool :=
  [.name, .keyword, .boolean, .null].contains token.kind

def nameWord : Parse Node := do
  let token ← next
  if !isNameWord token then unexpected token
  return .identifier token.word

end Parse

end SchemaRecovery.Script
