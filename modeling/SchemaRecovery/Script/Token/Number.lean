import SchemaRecovery.Script.Token.Basic

set_option autoImplicit false

namespace SchemaRecovery.Script

def isDecimalDigit (c : Char) : Bool := '0' ≤ c && c ≤ '9'

def Cursor.span (cursor : Cursor) (p : Char → Bool) : List Char × Cursor :=
  let taken := cursor.rest.takeWhile p
  (taken, cursor.advance taken.length)

def scanBased (base : Nat) (isDigit : Char → Bool) (badEnd : Char → Bool) (start : Cursor) :
    Except Fault (Nat × Cursor) :=
  let (ds, stop) := start.span isDigit
  if ds.isEmpty || badEnd (stop.peek 0) then .error (stop.fault .illegal)
  else .ok (numberIn base ds, stop)

def continuesNumber (c : Char) : Bool := isNameStart c || isDecimalDigit c

def isLegacyOctal (text : List Char) : Bool :=
  match text.dropWhile isOctal with
  | c :: _ => c != '8' && c != '9'
  | [] => true

def scanExponent (cursor : Cursor) : Except Fault (Int × Cursor) :=
  -- The digits of an exponent, with its sign. Without digits the place after `e` is at fault.
  if cursor.peek 0 = 'e' ∨ cursor.peek 0 = 'E' then
    let sign := cursor.peek 1
    let start := cursor.advance (if sign = '+' ∨ sign = '-' then 2 else 1)
    let (ds, stop) := start.span isDecimalDigit
    if ds.isEmpty then .error (stop.fault .illegal)
    else
      let magnitude : Int := Decimal.valueOf ds
      .ok (if sign = '-' then -magnitude else magnitude, stop)
  else
    .ok (0, cursor)

def scanDecimal (start : Cursor) : Except Fault (Number × Cursor) := do
  let (units, cursor) := start.span isDecimalDigit
  let (tenths, cursor) :=
    if cursor.peek 0 = '.' then (cursor.advance 1).span isDecimalDigit else ([], cursor)
  let (exponent, stop) ← scanExponent cursor
  if isNameStart (stop.peek 0) then
    .error (stop.fault .illegal)
  else
    let value := Decimal.Binary64.ofDecimal (Decimal.valueOf (units ++ tenths))
      (exponent - tenths.length)
    .ok (.ofDouble value, stop)

def scanNumber (start : Cursor) : Except Fault (Token × Cursor) := do
  let letter := start.peek 1
  let token (value : Number) (octal : Bool) (stop : Cursor) : Token × Cursor :=
    let raw := start.textTo stop
    (⟨.number, raw, raw, start.place.index, stop.place.line, .number value, octal, false, false⟩,
      stop)
  if start.peek 0 != '0' then
    let (value, stop) ← scanDecimal start
    .ok (token value false stop)
  else if letter = 'x' ∨ letter = 'X' then
    let (value, stop) ← scanBased 16 isHex isNameStart (start.advance 2)
    .ok (token (.whole value) false stop)
  else if letter = 'b' ∨ letter = 'B' then
    let (value, stop) ← scanBased 2 (fun c => c == '0' || c == '1') continuesNumber (start.advance 2)
    .ok (token (.whole value) false stop)
  else if letter = 'o' ∨ letter = 'O' then
    let (value, stop) ← scanBased 8 isOctal continuesNumber (start.advance 2)
    .ok (token (.whole value) false stop)
  else if isOctal letter && isLegacyOctal (start.rest.drop 1) then
    let (value, stop) ← scanBased 8 isOctal continuesNumber (start.advance 1)
    .ok (token (.whole value) true stop)
  else
    let (value, stop) ← scanDecimal start
    .ok (token value false stop)

end SchemaRecovery.Script
