import SchemaRecovery.Decimal.Numeral
import SchemaRecovery.Script.Fault
import SchemaRecovery.Text.Blank
import SchemaRecovery.Text.Lines

set_option autoImplicit false

namespace SchemaRecovery.Script

def placeIn (text : List Char) (place : Int) : Nat :=
  if place < 0 then (text.length + place).toNat else place.toNat

def excerptOfLine (text : List Char) (column : Int) (width : Int) : String :=
  let position := Int.ofNat (column - 1).toNat
  let start := (position - width).toNat
  let stop := placeIn text (position + width)
  String.ofList (Text.trim ((text.drop start).take (stop - start)))

def excerpt (source : String) (line : Nat) (column width : Int) : Option String :=
  if line = 0 then none else
  (Text.splitLines Text.isTextLineEnd source.toList)[line - 1]?.map (excerptOfLine · column width)

def excerptFromEnd (source : String) (back : Nat) (column width : Int) : Option String :=
  (Text.splitLines Text.isTextLineEnd source.toList).reverse[back]?.map
    (excerptOfLine · column width)

def excerptWidth : Int := 40

structure Report where
  message : String
  line : Option Nat
  column : Option Int
  context : Option String

def Fault.report? (source : String) : Fault → Option Report
  | .headlessTemplate => none
  | .tooDeep => some ⟨"Could not parse bundle: nesting too deep", none, none, none⟩
  | .refused line column complaint =>
    let context := excerpt source line column excerptWidth
    let near := match context with
      | some context => if context.isEmpty then "" else " near '" ++ context ++ "'"
      | none => ""
    let message := "Could not parse bundle: Line " ++ Decimal.numeral line ++ ": "
      ++ complaint.message ++ near
    some ⟨message, some line, some column, context⟩

end SchemaRecovery.Script
