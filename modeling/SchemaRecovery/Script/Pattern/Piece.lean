import SchemaRecovery.Script.Escape
import SchemaRecovery.Text.CodePoint

set_option autoImplicit false

namespace SchemaRecovery.Script.Pattern

inductive Piece where
  | plain (code : Nat)
  | escaped (code : Nat)
deriving Repr, DecidableEq

namespace Piece

def codes : Piece → List Nat
  | plain code => [code]
  | escaped code => ['\\'.toNat, code]

def char? : Piece → Option Char
  | plain code => Text.charOf? code
  | escaped _ => none

def is (piece : Piece) (c : Char) : Bool := piece == plain c.toNat

def ofCodes? : List Nat → Option (List Piece)
  | [] => some []
  | code :: rest =>
    if code = '\\'.toNat then
      match rest with
      | [] => none
      | next :: rest => (ofCodes? rest).map (escaped next :: ·)
    else
      (ofCodes? rest).map (plain code :: ·)

theorem codes_of_pieces {codes : List Nat} {pieces : List Piece} (read : ofCodes? codes = some pieces) :
    pieces.flatMap Piece.codes = codes := by
  fun_induction ofCodes? codes generalizing pieces with
  | case1 =>
    cases read
    rfl
  | case2 => cases read
  | case3 next rest ih =>
    obtain ⟨more, later, rfl⟩ := Option.map_eq_some_iff.mp read
    simp [Piece.codes, ih later]
  | case4 code rest different ih =>
    obtain ⟨more, later, rfl⟩ := Option.map_eq_some_iff.mp read
    simp [Piece.codes, ih later]

end Piece

-- The code that stands for every character beyond the basic plane that is written as an escape.
def beyondBasicPlane : Nat := 0xFFFF

def codeEscape? (text : List Char) : Option (Nat × Nat) :=
  match text with
  | '\x7b' :: rest =>
    let ds := rest.takeWhile isHex
    if ds.isEmpty || (rest.drop ds.length).head? != some '\x7d' then none
    else some (numberIn 16 ds, ds.length + 2)
  | _ =>
    let ds := (text.take 4).takeWhile isHex
    if ds.length = 4 then some (numberIn 16 ds, 4) else none

def resolveCodes (text : List Char) : Option (List Nat) :=
  -- The code points of a pattern, where escapes by number are resolved, also behind another
  -- backslash. There is no result for a number that is no code point.
  match text with
  | [] => some []
  | '\\' :: 'u' :: rest =>
    match codeEscape? rest with
    | none => (resolveCodes rest).map ('\\'.toNat :: 'u'.toNat :: ·)
    | some (code, used) =>
      if code > 0x10FFFF then none
      else (resolveCodes (rest.drop used)).map (min code beyondBasicPlane :: ·)
  | c :: rest => (resolveCodes rest).map (c.toNat :: ·)
termination_by text.length
decreasing_by all_goals simp; try omega

def joinHalves : List Nat → List Nat
  | high :: low :: rest =>
    if Text.isHighHalf high && Text.isLowHalf low then beyondBasicPlane :: joinHalves rest
    else high :: joinHalves (low :: rest)
  | codes => codes

def codesOf? (body : List Char) : Option (List Nat) := (resolveCodes body).map joinHalves

end SchemaRecovery.Script.Pattern
