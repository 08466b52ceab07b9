import SchemaRecovery.Script.Parse.Function

set_option autoImplicit false

namespace SchemaRecovery.Script.Parse

def startsKey (token : Token) : Bool :=
  match token.kind with
  | .name | .text | .boolean | .null | .number | .keyword => true
  | .punctuator => token.word == "["
  | _ => false

def keyIs (key : Node) (name : String) : Bool :=
  match key with
  | .identifier word => word == name
  | .literal (.text word) _ => word == name
  | _ => false

def spread (inner : Inner) : Parse Node := do
  expect "..."
  let argument ← inheriting inner.assignment
  return .operand .spread argument

def getterMember (inner : Inner) : Parse Node := do
  -- The getter forbids `yield` as a name from here on, also behind it.
  modify fun state => { state with admits := { state.admits with yieldName := false } }
  getter inner

inductive MemberForm where
  | getter
  | setter
  | generator
deriving DecidableEq

def memberForm? (token : Token) (async : Bool) : Parse (Option MemberForm) := do
  if !startsKey (← ahead) then return none
  if token.kind == .name && !async && token.word == "get" then return some .getter
  if token.kind == .name && !async && token.word == "set" then return some .setter
  if token.kind == .punctuator && token.word == "*" then return some .generator
  return none

structure Member where
  computed : Bool
  key : Node
  value : Node

def formedMember (inner : Inner) (form : MemberForm) : Parse Member := do
  let computed ← isAhead "["
  let key ← propertyKey inner
  let value ← match form with
    | .getter => getterMember inner
    | .setter => setter inner
    | .generator => generatorMethod inner
  return ⟨computed, key, value⟩

structure PropertyHead where
  computed : Bool
  key? : Option Node
  async : Bool

def propertyHead (inner : Inner) (token : Token) : Parse PropertyHead := do
  if token.kind == .name then
    let _ ← next
    let computed ← isAhead "["
    let async := token.word == "async" && !(← get).newline
      && !(← anyAhead [":", "(", "*", ","])
    let key ← if async then propertyKey inner else pure (.identifier token.word)
    return ⟨computed, some key, async⟩
  else if ← accept "*" then
    return ⟨false, none, false⟩
  else
    let computed ← isAhead "["
    let key ← propertyKey inner
    return ⟨computed, some key, false⟩

def property (inner : Inner) (hasProto : Bool) : Parse (Node × Bool) := do
  let token ← ahead
  let head ← propertyHead inner token
  if let some form ← memberForm? token head.async then
    let member ← formedMember inner form
    return (.property member.computed member.key member.value, hasProto)
  let key ← match head.key? with
    | some key => pure key
    | none => unexpected (← ahead)
  if !head.async && (← isAhead ":") then
    let proto := !head.computed && keyIs key "__proto__"
    if proto && hasProto then failAhead .duplicateProto
    let _ ← next
    let value ← inheriting inner.assignment
    return (.property head.computed key value, hasProto || proto)
  else if ← isAhead "(" then
    let value ← if head.async then asyncMethod inner else plainMethod inner
    return (.property head.computed key value, hasProto)
  else if token.kind == .name then
    let name := Node.identifier token.word
    if ← isAhead "=" then
      let sign ← next
      setCover fun cover => { cover with fault := some sign }
      let value ← isolate inner.assignment
      return (.property head.computed key (.assignmentPattern name value), hasProto)
    else
      return (.property head.computed key name, hasProto)
  else
    unexpected (← next)

def properties (inner : Inner) (hasProto : Bool) : Nat → Parse (List Node)
  | 0 => throw .tooDeep
  | limit + 1 => do
    if ← isAhead "\x7d" then return []
    let (first, hasProto) ← if ← isAhead "..." then do
        let element ← spread inner
        pure (element, hasProto)
      else property inner hasProto
    if !(← isAhead "\x7d") then expect ","
    return first :: (← properties inner hasProto limit)

def objectLiteral (inner : Inner) : Parse Node := do
  expect "\x7b"
  let properties ← properties inner false inner.limit
  expect "\x7d"
  return .object properties

def arrayElements (inner : Inner) : Nat → Parse (List (Option Node))
  | 0 => throw .tooDeep
  | limit + 1 => do
    if ← isAhead "]" then return []
    if ← accept "," then return none :: (← arrayElements inner limit)
    if ← isAhead "..." then
      let element ← spread inner
      if !(← isAhead "]") then
        markValue
        expect ","
      return some element :: (← arrayElements inner limit)
    let element ← inheriting inner.assignment
    if !(← isAhead "]") then expect ","
    return some element :: (← arrayElements inner limit)

def arrayLiteral (inner : Inner) : Parse Node := do
  expect "["
  let elements ← arrayElements inner inner.limit
  expect "]"
  return .array elements

structure ClassMemberHead where
  token : Token
  computed : Bool
  key? : Option Node
  isStatic : Bool
  async : Bool

def staticHead (inner : Inner) (token : Token) (computed : Bool) (key : Node) :
    Parse ClassMemberHead := do
  let following ← ahead
  let star ← isAhead "*"
  let modifies := match key with
    | .identifier word => word == "static" && (startsKey following || star)
    | _ => false
  if !modifies then return ⟨token, computed, some key, false, false⟩
  let computed ← isAhead "["
  if ← accept "*" then
    return ⟨following, computed, some key, true, false⟩
  else
    let key ← propertyKey inner
    return ⟨following, computed, some key, true, false⟩

def asyncHead (inner : Inner) (head : ClassMemberHead) : Parse ClassMemberHead := do
  if head.token.kind != .name || (← get).newline || head.token.word != "async" then return head
  let token ← ahead
  if [":", "(", "*"].contains token.word then return head
  let key ← propertyKey inner
  if token.kind == .name && token.word == "constructor" then failAt token .constructorAsync
  return { head with token := token, key? := some key, async := true }

def classMemberHead (inner : Inner) : Parse ClassMemberHead := do
  let token ← ahead
  if ← accept "*" then return ⟨token, false, none, false, false⟩
  let computed ← isAhead "["
  let key ← propertyKey inner
  asyncHead inner (← staticHead inner token computed key)

def classMember (inner : Inner) (hasConstructor : Bool) : Parse (Node × Bool) := do
  let head ← classMemberHead inner
  let form ← memberForm? head.token false
  let member ← match form with
    | some form => formedMember inner form
    | none =>
      match head.key? with
      | some key =>
        if ← isAhead "(" then
          let value ← if head.async then asyncMethod inner else plainMethod inner
          pure ⟨head.computed, key, value⟩
        else unexpected (← ahead)
      | none => unexpected (← ahead)
  let node := Node.method member.key member.value
  if member.computed then return (node, hasConstructor)
  if head.isStatic && keyIs member.key "prototype" then failAt head.token .staticPrototype
  if head.isStatic || !keyIs member.key "constructor" then return (node, hasConstructor)
  if form.isSome then failAt head.token .constructorAccessor
  if hasConstructor then failAt head.token .duplicateConstructor
  return (node, true)

def classMembers (inner : Inner) (hasConstructor : Bool) : Nat → Parse (List Node)
  | 0 => throw .tooDeep
  | limit + 1 => do
    if ← isAhead "\x7d" then return []
    if ← accept ";" then return ← classMembers inner hasConstructor limit
    let (member, hasConstructor) ← classMember inner hasConstructor
    return member :: (← classMembers inner hasConstructor limit)

def classBody (inner : Inner) : Parse Node := do
  expect "\x7b"
  let members ← classMembers inner false inner.limit
  expect "\x7d"
  return .classBody members

def classWith (inner : Inner) (kind : ClassKind) (name : Parse (Option Node)) : Parse Node := do
  let strict ← isStrict
  setStrict true
  expectKeyword "class"
  let name ← name
  let superClass ← if ← isKeywordAhead "extends" then do
      let _ ← next
      let node ← isolate inner.callChain
      pure (some node)
    else pure none
  let body ← classBody inner
  setStrict strict
  return .class kind name superClass body

def classDeclaration (inner : Inner) : Parse Node :=
  classWith inner .declaration do return some (← variableName none)

def classExpression (inner : Inner) : Parse Node :=
  classWith inner .expression do
    if ← isKindAhead .name then return some (← variableName none) else return none

end SchemaRecovery.Script.Parse
