import SchemaRecovery.Script.Parse.Member

set_option autoImplicit false

namespace SchemaRecovery.Script.Parse

mutual

def asPattern : Node → Node
  | .operand .spread argument => .operand .rest (asPatternOption argument)
  | .array elements => .arrayPattern (asPatternElements elements)
  | .object properties => .objectPattern (asPatternProperties properties)
  | .assignment _ left right => .assignmentPattern (asPattern left) right
  | node => node

def asPatternOption : Option Node → Option Node
  | none => none
  | some node => some (asPattern node)

def asPatternElements : List (Option Node) → List (Option Node)
  | [] => []
  | element :: elements => asPatternOption element :: asPatternElements elements

def asPatternProperties : List Node → List Node
  | [] => []
  | .property computed key value :: properties =>
    .property computed key (asPattern value) :: asPatternProperties properties
  | property :: properties => asPattern property :: asPatternProperties properties

end

mutual

def boundNames : Node → List String
  | .identifier name => [name]
  | .operand .rest argument => boundNamesOption argument
  | .assignmentPattern left _ => boundNames left
  | .arrayPattern elements => boundNamesElements elements
  | .objectPattern properties => boundNamesProperties properties
  | _ => []

def boundNamesOption : Option Node → List String
  | none => []
  | some node => boundNames node

def boundNamesElements : List (Option Node) → List String
  | [] => []
  | element :: elements => boundNamesOption element ++ boundNamesElements elements

def boundNamesProperties : List Node → List String
  | [] => []
  | .property _ _ value :: properties => boundNames value ++ boundNamesProperties properties
  | property :: properties => boundNames property ++ boundNamesProperties properties

end

def plainYield (param : Node) : Parse Node := do
  match param with
  | .assignmentPattern left (.operand .yield none) =>
    return .assignmentPattern left (.identifier "yield")
  | .assignmentPattern _ (.operand .yield (some _)) => unexpected (← ahead)
  | _ => return param

def isYield : Node → Bool
  | .operand .yield _ => true
  | _ => false

def checkArrowParam (async : Bool) (check : NameCheck) (param : Node) : Parse (Node × NameCheck) := do
  if async && param.name? == some "await" then unexpected (← ahead)
  let param ← plainYield param
  let strict ← isStrict
  return (param, (boundNames param).foldl (fun check name => check.add strict name .here) check)

def checkArrowParams (async : Bool) (check : NameCheck) : List Node → Parse (List Node × NameCheck)
  | [] => return ([], check)
  | param :: params => do
    let (param, check) ← checkArrowParam async check param
    let (params, check) ← checkArrowParams async check params
    return (param :: params, check)

def arrowFormals (async : Bool) (params : List Node) : Parse Formals := do
  let (params, check) ← checkArrowParams async {} params
  let mode ← admits
  if (mode.strict || !mode.yieldName) && params.any isYield then unexpected (← ahead)
  if check.complaint = some .duplicateParameter then fail .duplicateParameter
  return ⟨params, params.all (·.name?.isSome), check⟩

def arrowList (params : List Node) : Node := .parameters false params

def expectArrowAhead : Parse Unit := do
  if !(← isAhead "=>") then expect "=>"

def groupItems (inner : Inner) (items : List Node) : Nat → Parse Node
  | 0 => throw .tooDeep
  | limit + 1 => do
    if !(← accept ",") then return .sequence items
    if ← accept ")" then return arrowList (items.map asPattern)
    if ← isAhead "..." then
      if !(← get).cover.bindable then unexpected (← ahead)
      let (last, _) ← restParameter inner
      expect ")"
      expectArrowAhead
      setCover fun cover => { cover with bindable := false }
      return arrowList ((items ++ [last]).map asPattern)
    let item ← inheriting inner.assignment
    groupItems inner (items ++ [item]) limit

def closedGroup (body : Node) : Parse Node := do
  if !(← isAhead "=>") then return body
  if body.name? == some "yield" then return arrowList [body]
  if !(← get).cover.bindable then unexpected (← ahead)
  match body with
  | .sequence items => return arrowList (items.map asPattern)
  | _ => return arrowList [asPattern body]

def group (inner : Inner) : Parse Node := do
  expect "("
  if ← accept ")" then
    expectArrowAhead
    return arrowList []
  if ← isAhead "..." then
    let (param, _) ← restParameter inner
    expect ")"
    expectArrowAhead
    return arrowList [param]
  setCover fun cover => { cover with bindable := true }
  let first ← inheriting inner.assignment
  if ← isAhead "," then
    setCover fun cover => { cover with assignable := false }
    let body ← groupItems inner [first] inner.limit
    match body with
    | .sequence _ =>
      expect ")"
      let node ← closedGroup body
      setCover fun cover => { cover with bindable := false }
      return node
    | _ => return body
  else
    expect ")"
    let node ← closedGroup first
    setCover fun cover => { cover with bindable := false }
    return node

def arrowFunction (inner : Inner) (async : Bool) (params : List Node) : Parse Node := do
  let formals ← arrowFormals async params
  if (← get).newline then unexpected (← ahead)
  setCover fun cover => { cover with fault := none }
  let inside (mode : Admits) : Admits :=
    { mode with yieldName := true, await := async, strictDirective := formals.simple }
  admitting inside do
    expect "=>"
    let body ← if ← isAhead "\x7b" then do
        let before := (← admits).inOperator
        modify fun state => { state with admits := { state.admits with inOperator := true } }
        let body ← functionBody inner
        modify fun state => { state with admits := { state.admits with inOperator := before } }
        pure body
      else isolate inner.assignment
    formals.check.enforce
    return .function .arrow none formals.params body

end SchemaRecovery.Script.Parse
