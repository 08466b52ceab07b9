import SchemaRecovery.Script.Cursor
import SchemaRecovery.Text.CodePoint

set_option autoImplicit false

namespace SchemaRecovery.Script

def hexValue? (c : Char) : Option Nat :=
  if '0' ≤ c ∧ c ≤ '9' then some (c.toNat - 0x30)
  else if 'a' ≤ c ∧ c ≤ 'f' then some (c.toNat - 0x57)
  else if 'A' ≤ c ∧ c ≤ 'F' then some (c.toNat - 0x37)
  else none

def isHex (c : Char) : Bool := (hexValue? c).isSome

def isOctal (c : Char) : Bool := '0' ≤ c && c ≤ '7'

def numberIn (base : Nat) (text : List Char) : Nat :=
  text.foldl (fun value c => value * base + (hexValue? c).getD 0) 0

structure Escape where
  used : Nat
  code? : Option Nat

def hexEscape (width : Nat) (text : List Char) : Escape :=
  let ds := (text.take width).takeWhile isHex
  ⟨ds.length, if ds.length = width then some (numberIn 16 ds) else none⟩

def bracedEscape (text : List Char) : Escape :=
  let ds := text.takeWhile isHex
  let code := numberIn 16 ds
  match text.drop ds.length with
  | [] => ⟨ds.length, none⟩
  | '}' :: _ =>
    if ds.isEmpty then ⟨0, none⟩ else ⟨ds.length + 1, if code ≤ 0x10FFFF then some code else none⟩
  | _ :: _ => ⟨ds.length + 1, none⟩

def unicodeEscape (text : List Char) : Escape :=
  match text with
  | '{' :: rest => let escape := bracedEscape rest; ⟨escape.used + 1, escape.code?⟩
  | _ => hexEscape 4 text

def octalEscape (text : List Char) : Escape :=
  -- An octal escape from its first digit on: three digits only when the first is below four.
  let width := match text with
    | c :: _ => if c < '4' then 3 else 2
    | [] => 0
  let ds := (text.take width).takeWhile isOctal
  ⟨ds.length, some (numberIn 8 ds)⟩

def controlEscape? : Char → Option Nat
  | 'n' => some 0x0A
  | 'r' => some 0x0D
  | 't' => some 0x09
  | 'b' => some 0x08
  | 'f' => some 0x0C
  | 'v' => some 0x0B
  | _ => none

end SchemaRecovery.Script
