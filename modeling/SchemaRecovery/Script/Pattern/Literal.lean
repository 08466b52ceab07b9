import SchemaRecovery.Script.Pattern.Bounds
import SchemaRecovery.Script.Pattern.Escape
import SchemaRecovery.Script.Pattern.Group

set_option autoImplicit false

namespace SchemaRecovery.Script.Pattern

def dropRemarks (pieces : List Piece) : List Piece :=
  match pieces with
  | [] => []
  | piece :: rest =>
    if [' ', '\t', '\n', '\r', '\x0b', '\x0c'].any piece.is then dropRemarks rest
    else if piece.is '#' then dropRemarks (rest.dropWhile fun piece => !piece.is '\n')
    else piece :: rest
termination_by pieces.length
decreasing_by
  · simp
  · have := (List.dropWhile_sublist (fun piece : Piece => !piece.is '\n') (l := rest)).length_le
    simp only [List.length_cons]
    omega

def skipRemarks : Reader Unit := modify fun state => { state with rest := dropRemarks state.rest }

def setItem (limit : Nat) : Reader Item := do
  let _ ← accept '^'
  setMembers limit true
  return .single

def itemsWith (inner : Inner) (start : Bool) : Nat → Bool → List Item → Reader (List Item)
  | 0, _, _ => failure
  | fuel + 1, verbose, items => do
    if verbose then skipRemarks
    match (← rest).head? with
    | none => return items
    | some (.escaped code) =>
      skip 1
      itemsWith inner start fuel verbose ((← escape code) :: items)
    | some (.plain code) =>
      let c := (Text.charOf? code).getD ' '
      if c = '|' || c = ')' then return items
      skip 1
      if c = '[' then
        itemsWith inner start fuel verbose ((← setItem (fuel + 1)) :: items)
      else if c = '(' then
        match ← enclosed inner verbose (start && items.isEmpty) with
        | .item item => itemsWith inner start fuel verbose (item :: items)
        | .remark => itemsWith inner start fuel verbose items
        | .flags => itemsWith inner start fuel (← isGoverned .verbose) items
      else if c = '^' || c = '$' then
        itemsWith inner start fuel verbose (.position :: items)
      else
        match ← bounds? c with
        | some bounds => itemsWith inner start fuel verbose (← applyBounds bounds items)
        | none => itemsWith inner start fuel verbose (.single :: items)

def sumWidth (items : List Item) : Width :=
  (items.foldl (fun (total : Width) item => total.add item.width) ⟨0, 0⟩).capped

def alternativesWith (branch : Bool → Bool → Reader Width) (whole : Bool) :
    Nat → Bool → Option Width → Reader Width
  | 0, _, _ => failure
  | fuel + 1, verbose, before => do
    let width ← branch (whole && before.isNone) verbose
    let width := (before.map width.either).getD width
    if ← accept '|' then
      let verbose ← if whole then isGoverned .verbose else pure verbose
      alternativesWith branch whole fuel verbose (some width)
    else
      return width.capped

def branchAt : Nat → Bool → Bool → Reader Width
  | 0, _, _ => failure
  | depth + 1, start, verbose => do
    let fuel := (← rest).length + 1
    let inner : Inner := {
      alternatives := fun verbose => alternativesWith (branchAt depth) false fuel verbose none
      branch := branchAt depth false }
    return sumWidth (← itemsWith inner start fuel verbose [])

def wholePattern : Reader (List PatternFlag) := do
  -- A whole pattern. Conditions may ask only for groups that it has, its flags agree, and with
  -- the template flag nothing is repeated.
  let fuel := (← rest).length + 1
  let _ ← alternativesWith (branchAt fuel) true fuel false none
  let state ← get
  if !state.rest.isEmpty then failure
  if state.groups.deferred.any (state.groups.widths.length ≤ ·) then failure
  if areOpposed state.flags then failure
  if state.flags.contains .template && state.repeats then failure
  return state.flags

def literalFlags (letters : List Char) : List PatternFlag :=
  -- Of the letters behind a literal one is heeded, before all others that for lines.
  if letters.contains 'm' then [.multiline]
  else if letters.contains 'i' then [.ignoreCase]
  else []

def ofLiteral? (body letters : List Char) : Option Pattern := do
  let codes ← codesOf? body
  let pieces ← Piece.ofCodes? codes
  let (flags, _) ← wholePattern.run ⟨pieces, literalFlags letters, {}, false⟩
  return ⟨codes, flags⟩

end SchemaRecovery.Script.Pattern
