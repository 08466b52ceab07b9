import SchemaRecovery.Script.Pattern.Reader
import SchemaRecovery.Text.CharacterName

set_option autoImplicit false

namespace SchemaRecovery.Script.Pattern

def hexCode (width : Nat) : Reader Nat := do
  let ds ← takeWhile width isHex
  if ds.length = width then return numberIn 16 ds else failure

def namedCode : Reader Nat := do
  expect '\x7b'
  match Text.codeOfName? (← nameUntil '\x7d') with
  | some code => return code
  | none => failure

def escapedCode (code : Nat) : Reader Nat :=
  match Text.charOf? code with
  | none => return code
  | some c =>
    match controlEscape? c with
    | some code => return code
    | none =>
      if c = 'a' then return 7
      else if c = 'x' then hexCode 2
      else if c = 'u' then hexCode 4
      else if c = 'U' then do
        let code ← hexCode 8
        if code ≤ 0x10FFFF then return code else failure
      else if c = 'N' then namedCode
      else if c.isAlpha then failure
      else return code

def isClassLetter (c : Char) : Bool := ['d', 'D', 's', 'S', 'w', 'W'].contains c

def octalCode (ds : List Char) : Reader Nat :=
  let code := numberIn 8 ds
  if code ≤ 0o377 then return code else failure

def octalOrReference (first : Char) : Reader Item := do
  let more ← takeWhile 1 isDigit
  let third := (← rest).head?.bind Piece.char?
  if more.length = 1 && (first :: more).all isOctal && third.any isOctal then
    let _ ← octalCode (first :: more ++ (← takeWhile 1 isOctal))
    return .single
  else
    reference (numberIn 10 (first :: more))

def escape (code : Nat) : Reader Item := do
  let c := (Text.charOf? code).getD ' '
  if ['A', 'b', 'B', 'Z'].contains c then return .position
  else if isClassLetter c then return .single
  else if c = '0' then
    let _ ← takeWhile 2 isOctal
    return .single
  else if isDigit c then
    octalOrReference c
  else
    let _ ← escapedCode code
    return .single

def setEscape (code : Nat) : Reader (Option Nat) := do
  let c := (Text.charOf? code).getD ' '
  if isClassLetter c then return none
  else if isOctal c then return some (← octalCode (c :: (← takeWhile 2 isOctal)))
  else if isDigit c then failure
  else return some (← escapedCode code)

def setMember : Piece → Reader (Option Nat)
  | .plain code => return some code
  | .escaped code => setEscape code

def setMembers : Nat → Bool → Reader Unit
  -- The members of a set up to its closing bracket, which as the first member is an ordinary
  -- one. The ends of a range are characters in order.
  | 0, _ => failure
  | fuel + 1, first => do
    let piece ← next
    if piece.is ']' && !first then return ()
    let low ← setMember piece
    if ← accept '-' then
      let piece ← next
      if piece.is ']' then return ()
      match low, ← setMember piece with
      | some low, some high => if high < low then failure
      | _, _ => failure
    setMembers fuel false

end SchemaRecovery.Script.Pattern
