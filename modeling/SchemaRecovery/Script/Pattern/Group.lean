import SchemaRecovery.Decimal.Numeral
import SchemaRecovery.Script.Pattern.Reader
import SchemaRecovery.Text.Identifier

set_option autoImplicit false

namespace SchemaRecovery.Script.Pattern

inductive InlineFlags where
  | wholePattern
  | group (on off : List PatternFlag)

def flagLetters : Reader (List PatternFlag) := do
  let letters ← takeWhile (← rest).length fun c => (PatternFlag.ofLetter? c).isSome
  return letters.filterMap PatternFlag.ofLetter?

def areOpposed (flags : List PatternFlag) : Bool :=
  flags.contains .ascii && flags.contains .unicode

def flagsOff (on : List PatternFlag) : Reader InlineFlags := do
  let off ← flagLetters
  expect ':'
  if off.isEmpty || off.any [.ascii, .unicode, .template].contains || off.any on.contains then failure
  return .group on off

def inlineFlags (first : Char) : Reader InlineFlags := do
  if first = '-' then return ← flagsOff []
  let on := (PatternFlag.ofLetter? first).toList ++ (← flagLetters)
  if areOpposed on then failure
  let separator ← nextChar
  if separator = ')' then
    modify fun state => { state with flags := state.flags ++ on }
    return .wholePattern
  if on.contains .template then failure
  if separator = ':' then return .group on []
  if separator = '-' then return ← flagsOff on
  failure

def groupNumber (text : List Char) : Reader Nat := do
  match Decimal.readInt (String.ofList text) with
  | some (.ofNat (index + 1)) => return index + 1
  | _ => failure

def condition : Reader Unit := do
  let name ← nameUntil ')'
  let index ← if Text.isIdentifier name then groupNamed name else groupNumber name
  modifyGroups fun known => { known with deferred := index :: known.deferred }
  if (← groups).behind.isSome then
    let _ ← reference index

structure Inner where
  alternatives : Bool → Reader Width
  branch : Bool → Reader Width

inductive Enclosed where
  | item (item : Item)
  | remark
  | flags

def closed (content : Reader Width) : Reader Width := do
  let width ← content
  expect ')'
  return width

def plainGroup (content : Reader Width) : Reader Enclosed := do
  return .item ⟨.other, ← closed content⟩

def captureGroup (content : Reader Width) (name? : Option (List Char)) : Reader Enclosed := do
  let index ← openGroup name?
  let width ← closed content
  closeGroup index width
  return .item ⟨.other, width⟩

def lookAhead (content : Reader Width) : Reader Enclosed := do
  let _ ← closed content
  return .item ⟨.other, ⟨0, 0⟩⟩

def lookBehind (content : Reader Width) : Reader Enclosed := do
  let outer := (← groups).behind
  if outer.isNone then
    modifyGroups fun known => { known with behind := some known.widths.length }
  let width ← content
  modifyGroups fun known => { known with behind := outer }
  expect ')'
  if width.least != width.most then failure
  return .item ⟨.other, ⟨0, 0⟩⟩

def conditionalGroup (branch : Reader Width) : Reader Enclosed := do
  condition
  let yes ← branch
  let no ← if ← accept '|' then branch else pure ⟨0, 0⟩
  expect ')'
  return .item ⟨.other, yes.either no⟩

def namedGroup (content : Reader Width) : Reader Enclosed := do
  if ← accept '<' then
    let name ← nameUntil '>'
    if !Text.isIdentifier name then failure
    captureGroup content (some name)
  else
    expect '='
    let name ← nameUntil ')'
    return .item (← reference (← groupNamed name))

def remark : Reader Enclosed := do
  let passed := (← rest).takeWhile fun piece => !piece.is ')'
  skip passed.length
  expect ')'
  return .remark

def enclosed (inner : Inner) (verbose start : Bool) : Reader Enclosed := do
  -- What stands behind an opening parenthesis. Flags for the whole pattern come before all
  -- items.
  let content := inner.alternatives verbose
  if !(← accept '?') then return ← captureGroup content none
  let c ← nextChar
  if c = 'P' then namedGroup content
  else if c = ':' || c = '>' then plainGroup content
  else if c = '#' then remark
  else if c = '=' || c = '!' then lookAhead content
  else if c = '<' then
    let c ← nextChar
    if c = '=' || c = '!' then lookBehind content else failure
  else if c = '(' then conditionalGroup (inner.branch verbose)
  else if (PatternFlag.ofLetter? c).isSome || c = '-' then
    match ← inlineFlags c with
    | .group on off =>
      plainGroup (inner.alternatives ((verbose || on.contains .verbose) && !off.contains .verbose))
    | .wholePattern => if start then return .flags else failure
  else failure

end SchemaRecovery.Script.Pattern
