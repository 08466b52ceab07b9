import SchemaRecovery.Decimal.Binary64

set_option autoImplicit false

namespace SchemaRecovery.Decimal

structure Interval where
  low : Nat
  value : Nat
  high : Nat
  denominator : Nat
  closed : Bool

def roundingInterval (mantissa : Nat) (exponent : Int) : Interval :=
  let narrow := mantissa = Nat.pow 2 (precision - 1) ∧ exponent > minExponent
  let unit := scale 1 exponent
  { low := (4 * mantissa - (if narrow then 1 else 2)) * unit
    value := 4 * mantissa * unit
    high := (4 * mantissa + 2) * unit
    denominator := 4 * Nat.pow 2 (-exponent).toNat
    closed := mantissa % 2 = 0 }

def Interval.holds (interval : Interval) (n : Nat) (place : Int) : Bool :=
  let point := n * Nat.pow 10 place.toNat * interval.denominator
  let low := interval.low * Nat.pow 10 (-place).toNat
  let high := interval.high * Nat.pow 10 (-place).toNat
  if interval.closed then low ≤ point ∧ point ≤ high else low < point ∧ point < high

def Interval.nearest? (interval : Interval) (place : Int) : Option Nat :=
  let numerator := interval.value * Nat.pow 10 (-place).toNat
  let denominator := interval.denominator * Nat.pow 10 place.toNat
  let below := numerator / denominator
  match interval.holds below place, interval.holds (below + 1) place with
  | true, true => some (roundHalfEven numerator denominator)
  | true, false => some below
  | false, true => some (below + 1)
  | false, false => none

def Interval.magnitude (interval : Interval) : Nat → Int → Int
  | 0, place => place
  | fuel + 1, place =>
    if interval.value * Nat.pow 10 (-place).toNat < interval.denominator * Nat.pow 10 place.toNat then place
    else interval.magnitude fuel (place + 1)

def shortestFrom (interval : Interval) (magnitude : Int) (count : Nat) : Nat → Option (Nat × Int)
  -- Digits with the place of the last one. The upper neighbour may be a power of ten, which
  -- needs one digit fewer.
  | 0 => none
  | fuel + 1 =>
    let place := magnitude - count
    match interval.nearest? place with
    | some n => some (if n % 10 = 0 then (n / 10, place + 1) else (n, place))
    | none => shortestFrom interval magnitude (count + 1) fuel

def shortest (mantissa : Nat) (exponent : Int) : Nat × Int :=
  let interval := roundingInterval mantissa exponent
  let guess : Int := ((Nat.log2 mantissa : Int) + exponent) * 301 / 1000 - 1
  let magnitude := interval.magnitude 8 guess
  (shortestFrom interval magnitude 1 17).getD (0, 0)

structure FractionLayout where
  leastPositional : Int
  exponentWidth : Nat

def fractionLayout : FractionLayout := ⟨-4, 2⟩

def padLeft (width : Nat) (text : List Char) : List Char :=
  List.replicate (width - text.length) '0' ++ text

def FractionLayout.write (layout : FractionLayout) (significand : Nat) (place : Int) : String :=
  let ds := digits significand
  let lead : Int := place + ds.length - 1
  if lead ≥ layout.leastPositional then
    let ds := padLeft ((-place).toNat + 1) ds
    let split := ds.length - (-place).toNat
    String.ofList (ds.take split ++ '.' :: ds.drop split)
  else
    let tail := if ds.length > 1 then '.' :: ds.drop 1 else []
    String.ofList (ds.take 1 ++ tail ++ ['e', '-'] ++ padLeft layout.exponentWidth (digits lead.natAbs))

def fractionText (mantissa : Nat) (exponent : Int) : String :=
  let (significand, place) := shortest mantissa exponent
  fractionLayout.write significand place

end SchemaRecovery.Decimal
