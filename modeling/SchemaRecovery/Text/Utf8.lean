import SchemaRecovery.Decimal.Numeral
import SchemaRecovery.Text.Quoted

set_option autoImplicit false

namespace SchemaRecovery.Text.Utf8

def encode (text : String) : List UInt8 := text.toList.flatMap String.utf8EncodeChar

structure Unencodable where
  -- Halves of pairs that have no bytes: `count` of them, from a position on, of which the first
  -- is `code`.
  position : Nat
  count : Nat
  code : Nat
deriving Repr, DecidableEq

def Unencodable.message (fault : Unencodable) : String :=
  let place :=
    if fault.count = 1 then
      "character " ++ String.ofList (quotedCodes [fault.code]) ++ " in position " ++ Decimal.numeral fault.position
    else
      "characters in position " ++ Decimal.numeral fault.position ++ "-"
        ++ Decimal.numeral (fault.position + fault.count - 1)
  "'utf-8' codec can't encode " ++ place ++ ": surrogates not allowed"

def bytesFrom (position : Nat) : List Nat → Except Unencodable (List UInt8)
  | [] => .ok []
  | code :: rest =>
    match charOf? code with
    | none => .error ⟨position, 1 + (rest.takeWhile isHalf).length, code⟩
    | some c => (bytesFrom (position + 1) rest).map fun bytes => String.utf8EncodeChar c ++ bytes

def bytes (text : String) : Except Unencodable (List UInt8) := bytesFrom 0 (codes text.toList)

inductive Flaw where
  | badStart
  | badContinuation
  | cutShort
deriving Repr, DecidableEq

def Flaw.text : Flaw → String
  | badStart => "invalid start byte"
  | badContinuation => "invalid continuation byte"
  | cutShort => "unexpected end of data"

structure Undecodable where
  flaw : Flaw
  position : Nat
  count : Nat
  byte : UInt8
deriving Repr, DecidableEq

def Undecodable.message (fault : Undecodable) : String :=
  let place :=
    if fault.count = 1 then
      "byte 0x" ++ String.ofList (hexDigits 2 fault.byte.toNat) ++ " in position "
        ++ Decimal.numeral fault.position
    else
      "bytes in position " ++ Decimal.numeral fault.position ++ "-"
        ++ Decimal.numeral (fault.position + fault.count - 1)
  "'utf-8' codec can't decode " ++ place ++ ": " ++ fault.flaw.text

structure Begun where
  -- A character that has begun: the bytes still owed, the bounds of the next one, the bits so
  -- far, and its first byte with the number of those already read.
  owed : Nat
  low : UInt8
  high : UInt8
  bits : Nat
  first : UInt8
  taken : Nat
deriving Repr, DecidableEq

def begin? (byte : UInt8) : Option Begun :=
  let begun (owed : Nat) (low high : UInt8) (bits : Nat) : Option Begun :=
    some ⟨owed, low, high, bits, byte, 1⟩
  if byte < 0xC2 then none
  else if byte < 0xE0 then begun 1 0x80 0xBF (byte.toNat - 0xC0)
  else if byte = 0xE0 then begun 2 0xA0 0xBF 0
  else if byte = 0xED then begun 2 0x80 0x9F 0xD
  else if byte < 0xF0 then begun 2 0x80 0xBF (byte.toNat - 0xE0)
  else if byte = 0xF0 then begun 3 0x90 0xBF 0
  else if byte < 0xF4 then begun 3 0x80 0xBF (byte.toNat - 0xF0)
  else if byte = 0xF4 then begun 3 0x80 0x8F 4
  else none

def decodeFrom (done : List Char) (position : Nat) :
    Option Begun → List UInt8 → Except Undecodable (List Char)
  | none, [] => .ok done.reverse
  | some begun, [] => .error ⟨.cutShort, position - begun.taken, begun.taken, begun.first⟩
  | none, byte :: rest =>
    if byte < 0x80 then decodeFrom (Char.ofNat byte.toNat :: done) (position + 1) none rest
    else
      match begin? byte with
      | none => .error ⟨.badStart, position, 1, byte⟩
      | some begun => decodeFrom done (position + 1) (some begun) rest
  | some begun, byte :: rest =>
    if byte < begun.low ∨ begun.high < byte then
      .error ⟨.badContinuation, position - begun.taken, begun.taken, begun.first⟩
    else
      let bits := begun.bits * 0x40 + (byte.toNat - 0x80)
      if begun.owed ≤ 1 then decodeFrom (Char.ofNat bits :: done) (position + 1) none rest
      else
        decodeFrom done (position + 1)
          (some ⟨begun.owed - 1, 0x80, 0xBF, bits, begun.first, begun.taken + 1⟩) rest

def decode (bytes : List UInt8) : Except Undecodable String :=
  (decodeFrom [] 0 none bytes).map String.ofList

end SchemaRecovery.Text.Utf8
