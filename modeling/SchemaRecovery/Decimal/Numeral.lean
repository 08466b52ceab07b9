import SchemaRecovery.Text.Blank
import SchemaRecovery.Text.Digit
import SchemaRecovery.Text.Quoted

set_option autoImplicit false

namespace SchemaRecovery.Decimal

def digitChar (value : Nat) : Char := Char.ofNat (0x30 + value)

def digits (n : Nat) : List Char :=
  if n < 10 then [digitChar n] else digits (n / 10) ++ [digitChar (n % 10)]
termination_by n
decreasing_by omega

def valueOf (text : List Char) : Nat :=
  text.foldl (fun value c => value * 10 + (c.toNat - 0x30)) 0

def intDigits : Int → List Char
  | .ofNat n => digits n
  | .negSucc n => '-' :: digits (n + 1)

def numeral (n : Nat) : String := String.ofList (digits n)

def intNumeral (n : Int) : String := String.ofList (intDigits n)

theorem value_of_append (text : List Char) (c : Char) :
    valueOf (text ++ [c]) = valueOf text * 10 + (c.toNat - 0x30) := by
  simp [valueOf]

theorem digit_char_value {n : Nat} (digit : n < 10) : (digitChar n).toNat - 0x30 = n := by
  have all : ∀ digit < 10, (digitChar digit).toNat - 0x30 = digit := by decide
  exact all n digit

theorem value_of_digits (n : Nat) : valueOf (digits n) = n := by
  induction n using Nat.strongRecOn with
  | _ n ih =>
    unfold digits
    split
    · rename_i single
      simp [valueOf, digit_char_value single]
    · rw [value_of_append, ih (n / 10) (by omega), digit_char_value (by omega)]
      omega

def readDigits (value : Nat) : List Char → Option Nat
  | [] => some value
  | '_' :: c :: rest => do
    let digit ← Text.digitValue? c
    readDigits (value * 10 + digit) rest
  | c :: rest => do
    let digit ← Text.digitValue? c
    readDigits (value * 10 + digit) rest

def readNatural : List Char → Option Nat
  | [] => none
  | c :: rest => do readDigits (← Text.digitValue? c) rest

def readInt (text : String) : Option Int :=
  match Text.trimWhere Text.isNumberBlank text.toList with
  | '-' :: rest => (readNatural rest).map fun n => -Int.ofNat n
  | '+' :: rest => (readNatural rest).map Int.ofNat
  | rest => (readNatural rest).map Int.ofNat

end SchemaRecovery.Decimal
