import SchemaRecovery.Decimal.Numeral

set_option autoImplicit false

namespace SchemaRecovery.Decimal

inductive Binary64 where
  | finite (mantissa : Nat) (exponent : Int)
  | infinite
deriving Repr, DecidableEq

def precision : Nat := 53

def minExponent : Int := -1074

def maxExponent : Int := 971

def roundHalfEven (numerator denominator : Nat) : Nat :=
  let quotient := numerator / denominator
  let twice := 2 * (numerator % denominator)
  if twice > denominator || (twice == denominator && quotient % 2 == 1) then quotient + 1 else quotient

def scale (n : Nat) (exponent : Int) : Nat := n * Nat.pow 2 exponent.toNat

def mantissaExponent (numerator denominator : Nat) : Int :=
  let guess := (Nat.log2 numerator : Int) - (Nat.log2 denominator : Int) - (precision - 1 : Int)
  let fits := scale numerator (-guess) ≥ scale (denominator * Nat.pow 2 (precision - 1)) guess
  max minExponent (if fits then guess else guess - 1)

def Binary64.ofQuotient (numerator denominator : Nat) : Binary64 :=
  if numerator = 0 then .finite 0 0 else
  let exponent := mantissaExponent numerator denominator
  let mantissa := roundHalfEven (scale numerator (-exponent)) (scale denominator exponent)
  let (mantissa, exponent) :=
    if mantissa = Nat.pow 2 precision then (Nat.pow 2 (precision - 1), exponent + 1) else (mantissa, exponent)
  if exponent > maxExponent then .infinite else .finite mantissa exponent

def Binary64.ofDecimal (significand : Nat) (exponent : Int) : Binary64 :=
  -- Powers far outside the range of the format are not computed.
  let magnitude : Int := ((digits significand).length : Int) + exponent
  if significand = 0 ∨ magnitude < -400 then .finite 0 0
  else if magnitude > 400 then .infinite
  else if exponent ≥ 0 then .ofQuotient (significand * Nat.pow 10 exponent.toNat) 1
  else .ofQuotient significand (Nat.pow 10 (-exponent).toNat)

def Binary64.whole? : Binary64 → Option Nat
  | .infinite => none
  | .finite mantissa exponent =>
    if exponent ≥ 0 then some (mantissa * Nat.pow 2 exponent.toNat)
    else if mantissa % Nat.pow 2 (-exponent).toNat = 0 then some (mantissa / Nat.pow 2 (-exponent).toNat)
    else none

end SchemaRecovery.Decimal
