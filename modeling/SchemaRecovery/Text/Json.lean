import SchemaRecovery.Text.Quoted
import SchemaRecovery.Decimal.Numeral

set_option autoImplicit false

namespace SchemaRecovery.Text

inductive Json where
  | null
  | text (value : String)
  | integer (value : Int)
  | list (items : List Json)
  | record (items : List (String × Json))
deriving Repr

namespace Json

def ofOption (value? : Option String) : Json :=
  match value? with
  | none => null
  | some value => text value

def ofInt? (value? : Option Int) : Json :=
  match value? with
  | none => null
  | some value => integer value

def texts (values : List String) : Json := list (values.map text)

def escapeUnit (unit : Nat) : List Char := '\\' :: 'u' :: hexDigits 4 unit

def escapeCode (code : Nat) : List Char :=
  if code < 0x10000 then escapeUnit code
  else
    escapeUnit (0xD800 + (code - 0x10000) / 0x400) ++ escapeUnit (0xDC00 + (code - 0x10000) % 0x400)

def escapeJsonChar (c : Char) : List Char :=
  if c = '\x22' ∨ c = '\\' then ['\\', c]
  else if c = '\n' then ['\\', 'n']
  else if c = '\r' then ['\\', 'r']
  else if c = '\t' then ['\\', 't']
  else if c = '\x08' then ['\\', 'b']
  else if c = '\x0c' then ['\\', 'f']
  else if 0x20 ≤ c.toNat ∧ c.toNat ≤ 0x7E then [c]
  else escapeCode c.toNat

def textLiteral (value : String) : String :=
  let shown := (codes value.toList).flatMap fun code =>
    match charOf? code with
    | some c => escapeJsonChar c
    | none => escapeUnit code
  String.ofList ('\x22' :: shown ++ ['\x22'])

def lineStart (level : Nat) : String := String.ofList ('\n' :: List.replicate (2 * level) ' ')

def bracket (level : Nat) (opening closing : String) (items : List String) : String :=
  if items.isEmpty then opening ++ closing
  else
    opening ++ lineStart (level + 1) ++ String.intercalate ("," ++ lineStart (level + 1)) items
      ++ lineStart level ++ closing

mutual
def write (level : Nat) : Json → String
  | null => "null"
  | text value => textLiteral value
  | integer value => Decimal.intNumeral value
  | list items => bracket level "[" "]" (writeItems (level + 1) items)
  | record items => bracket level "\x7b" "\x7d" (writeFields (level + 1) items)

def writeItems (level : Nat) : List Json → List String
  | [] => []
  | item :: items => write level item :: writeItems level items

def writeFields (level : Nat) : List (String × Json) → List String
  | [] => []
  | (key, value) :: items => (textLiteral key ++ ": " ++ write level value) :: writeFields level items
end

def document (value : Json) : String := write 0 value

end Json

end SchemaRecovery.Text
