import SchemaRecovery.Text.CodePoint
import SchemaRecovery.Text.Printable

set_option autoImplicit false

namespace SchemaRecovery.Text

def hexDigit (value : Nat) : Char :=
  if value < 10 then Char.ofNat (0x30 + value) else Char.ofNat (0x57 + value)

def hexDigits : Nat → Nat → List Char
  | 0, _ => []
  | width + 1, value => hexDigits width (value / 16) ++ [hexDigit (value % 16)]

def quoteFor (text : List Char) : Char :=
  if text.contains '\x27' && !text.contains '\x22' then '\x22' else '\x27'

def escapeChar (quote c : Char) : List Char :=
  if c = quote ∨ c = '\\' then ['\\', c]
  else if c = '\n' then ['\\', 'n']
  else if c = '\r' then ['\\', 'r']
  else if c = '\t' then ['\\', 't']
  else if isPrintable c then [c]
  else if c.toNat < 0x100 then '\\' :: 'x' :: hexDigits 2 c.toNat
  else if c.toNat < 0x10000 then '\\' :: 'u' :: hexDigits 4 c.toNat
  else '\\' :: 'U' :: hexDigits 8 c.toNat

def quotedCodes (codes : List Nat) : List Char :=
  let quote := quoteFor (codes.filterMap charOf?)
  let shown := codes.flatMap fun code =>
    match charOf? code with
    | some c => escapeChar quote c
    | none => '\\' :: 'u' :: hexDigits 4 code
  quote :: shown ++ [quote]

def quoted (text : String) : String := String.ofList (quotedCodes (codes text.toList))

def quotedWithin (limit : Nat) (text : String) : String :=
  String.ofList ((quotedCodes (codes text.toList)).take limit)

def quotedOr (text? : Option String) : String :=
  (text?.map quoted).getD "None"

def bracketed (items : List String) : String :=
  "[" ++ String.intercalate ", " items ++ "]"

def quotedList (texts : List String) : String :=
  bracketed (texts.map quoted)

end SchemaRecovery.Text
