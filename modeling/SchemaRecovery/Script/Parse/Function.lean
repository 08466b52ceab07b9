import SchemaRecovery.Script.Parse.Binding

set_option autoImplicit false

namespace SchemaRecovery.Script.Parse

inductive Blame where
  -- What a later complaint points at: a token, or only the place that the parse has reached.
  | token (token : Token)
  | here

def failFor {α : Type} (blame : Blame) (complaint : Complaint) : Parse α :=
  match blame with
  | .token token => failAt token complaint
  | .here => fail complaint

structure NameCheck where
  seen : List String := []
  early : Option Blame := none
  twice : Option Blame := none
  complaint : Option Complaint := none

def NameCheck.add (check : NameCheck) (strict : Bool) (name : String) (blame : Blame) : NameCheck :=
  let known := check.seen.contains name
  let seen := name :: check.seen
  if strict then
    let check := if isRestricted name then
        { check with twice := some blame, complaint := some .strictParameterName }
      else check
    if known then { check with seen := seen, twice := some blame, complaint := some .duplicateParameter }
    else { check with seen := seen }
  else if check.early.isSome then { check with seen := seen }
  else if isRestricted name then
    { check with seen := seen, early := some blame, complaint := some .strictParameterName }
  else if isStrictReserved name then
    { check with seen := seen, early := some blame, complaint := some .strictReserved }
  else if known then
    { check with seen := seen, twice := some blame, complaint := some .duplicateParameter }
  else { check with seen := seen }

structure Formals where
  params : List Node
  simple : Bool
  check : NameCheck

def NameCheck.enforce (check : NameCheck) : Parse Unit := do
  if ← isStrict then
    if let some blame := check.early then
      failFor blame (check.complaint.getD .illegal)
    if let some blame := check.twice then
      failFor blame (check.complaint.getD .illegal)

def formal (inner : Inner) : Parse (Node × List Token) := do
  if ← isAhead "..." then restParameter inner else patternWithDefault inner none

def formalList (inner : Inner) (check : NameCheck) : Nat → Parse (List Node × NameCheck)
  | 0 => throw .tooDeep
  | limit + 1 => do
    if ← isKindAhead .endOfText then return ([], check)
    let (param, names) ← formal inner
    let strict ← isStrict
    let check := names.foldl (fun check token => check.add strict token.word (.token token)) check
    if ← isAhead ")" then return ([param], check)
    expect ","
    if ← isAhead ")" then return ([param], check)
    let (params, check) ← formalList inner check limit
    return (param :: params, check)

def formals (inner : Inner) (check : NameCheck) : Parse Formals := do
  expect "("
  let (params, check) ← if ← isAhead ")" then pure ([], check) else formalList inner check inner.limit
  expect ")"
  return ⟨params, params.all (·.name?.isSome), check⟩

def directive (inner : Inner) : Parse (Node × Option String) := do
  let token ← ahead
  let body ← expression inner
  let text := match body with
    | .literal .. => String.ofList (token.raw.toList.drop 1).dropLast
    | _ => ""
  semicolon
  return (.expressionStatement body, if text.isEmpty then none else some text)

def directives (inner : Inner) (octal : Option Token) : Nat → Parse (List Node)
  | 0 => throw .tooDeep
  | limit + 1 => do
    let token ← ahead
    if token.kind != .text then return []
    let (statement, text) ← directive inner
    match text with
    | none => return [statement]
    | some "use strict" =>
      setStrict true
      if let some octal := octal then failAt octal .octalInStrict
      if !(← admits).strictDirective then failAt token .misplacedStrictDirective
      return statement :: (← directives inner octal limit)
    | some _ =>
      let octal := if octal.isNone && token.octal then some token else octal
      return statement :: (← directives inner octal limit)

def functionBody (inner : Inner) : Parse Node := do
  expect "\x7b"
  let opening ← directives inner none inner.limit
  let stop := do return (← isKindAhead .endOfText) || (← isAhead "\x7d")
  let before ← around
  modify fun state => { state with around := { inFunction := true } }
  let items ← repeatUntil stop inner.item inner.limit
  expect "\x7d"
  modify fun state => { state with around := before }
  return .block (opening ++ items)

def keepingMode {α : Type} (simple : Bool) (parse : Parse α) : Parse α := do
  let before ← admits
  modify fun state => { state with admits := { state.admits with strictDirective := simple } }
  let result ← parse
  modify fun state => { state with
    admits := { state.admits with
      strict := before.strict
      strictDirective := before.strictDirective } }
  return result

def functionRest (inner : Inner) (kind : FunctionKind) (name : Option Node) (check : NameCheck) :
    Parse Node := do
  let formals ← formals inner check
  let body ← keepingMode formals.simple do
    let body ← functionBody inner
    formals.check.enforce
    return body
  return .function kind name formals.params body

def checkFunctionName (token : Token) : Parse NameCheck := do
  if ← isStrict then
    if isRestricted token.word then failAt token .strictFunctionName
    return {}
  else if isRestricted token.word then
    return { early := some (.token token), complaint := some .strictFunctionName }
  else if isStrictReserved token.word then
    return { early := some (.token token), complaint := some .strictReserved }
  else
    return {}

structure FunctionHead where
  async : Bool
  generator : Bool

def functionHead : Parse FunctionHead := do
  let async ← isWordAhead "async"
  if async then
    let _ ← next
  expectKeyword "function"
  let generator ← if async then pure false else accept "*"
  return ⟨async, generator⟩

def FunctionHead.inside (head : FunctionHead) (mode : Admits) : Admits :=
  { mode with await := head.async, yieldName := !head.generator }

def functionDeclaration (inner : Inner) : Parse (Node × Bool) := do
  let head ← functionHead
  let token ← ahead
  let name ← variableName none
  let check ← checkFunctionName token
  let node ← admitting head.inside (functionRest inner .declaration (some name) check)
  return (node, head.generator)

def functionExpression (inner : Inner) : Parse Node := do
  let head ← functionHead
  admitting head.inside do
    if ← isAhead "(" then
      functionRest inner .expression none {}
    else
      let token ← ahead
      let name ← if !(← isStrict) && !head.generator && (← isKeywordAhead "yield") then nameWord
        else variableName none
      let check ← checkFunctionName token
      functionRest inner .expression (some name) check

def methodBody (inner : Inner) (formals : Formals) : Parse Node := do
  markValue
  let body ← keepingMode formals.simple do
    let body ← isolate (functionBody inner)
    formals.check.enforce
    return body
  return .function .expression none formals.params body

def plainMethod (inner : Inner) : Parse Node :=
  admitting (fun mode => { mode with yieldName := true }) do
    methodBody inner (← formals inner {})

def asyncMethod (inner : Inner) : Parse Node :=
  admitting (fun mode => { mode with yieldName := false, await := true }) do
    methodBody inner (← formals inner {})

def getter (inner : Inner) : Parse Node :=
  admitting (fun mode => { mode with yieldName := true }) do
    let formals ← formals inner {}
    if !formals.params.isEmpty then failAhead .getterArity
    methodBody inner formals

def setter (inner : Inner) : Parse Node :=
  admitting (fun mode => { mode with yieldName := true }) do
    let formals ← formals inner {}
    match formals.params with
    | [.operand .rest _] => failAhead .setterRest
    | [_] => methodBody inner formals
    | _ => failAhead .setterArity

def generatorMethod (inner : Inner) : Parse Node :=
  admitting (fun mode => { mode with yieldName := true }) do
    let formals ← formals inner {}
    modify fun state => { state with admits := { state.admits with yieldName := false } }
    methodBody inner formals

end SchemaRecovery.Script.Parse
