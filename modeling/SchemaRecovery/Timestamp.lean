import SchemaRecovery.Decimal.Shortest

set_option autoImplicit false

namespace SchemaRecovery

structure Timestamp where
  microseconds : Int
deriving Repr, DecidableEq

namespace Timestamp

structure Date where
  year : Int
  month : Int
  day : Int
deriving Repr, DecidableEq

def dateOfDays (days : Int) : Date :=
  -- The date a number of days after the first of January 1970. Years are counted from March on,
  -- so that a leap day is the last day of its year.
  let shifted := days + 719468
  let era := shifted / 146097
  let dayOfEra := shifted % 146097
  let yearOfEra := (dayOfEra - dayOfEra / 1460 + dayOfEra / 36524 - dayOfEra / 146096) / 365
  let dayOfYear := dayOfEra - (365 * yearOfEra + yearOfEra / 4 - yearOfEra / 100)
  let monthFromMarch := (5 * dayOfYear + 2) / 153
  let day := dayOfYear - (153 * monthFromMarch + 2) / 5 + 1
  let month := if monthFromMarch < 10 then monthFromMarch + 3 else monthFromMarch - 9
  ⟨yearOfEra + era * 400 + (if month ≤ 2 then 1 else 0), month, day⟩

def padded (width : Nat) (n : Int) : String :=
  String.ofList (Decimal.padLeft width (Decimal.intDigits n))

def text? (timestamp : Timestamp) : Option String :=
  let milliseconds := timestamp.microseconds / 1000
  let seconds := milliseconds / 1000
  let date := dateOfDays (seconds / 86400)
  if 1 ≤ date.year ∧ date.year ≤ 9999 then
    some (padded 4 date.year ++ "-" ++ padded 2 date.month ++ "-" ++ padded 2 date.day ++ "T" ++
      padded 2 (seconds % 86400 / 3600) ++ ":" ++ padded 2 (seconds % 3600 / 60) ++ ":" ++
      padded 2 (seconds % 60) ++ "." ++ padded 3 (milliseconds % 1000) ++ "Z")
  else
    none

end Timestamp

end SchemaRecovery
