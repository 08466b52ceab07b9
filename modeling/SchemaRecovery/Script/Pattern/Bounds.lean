import SchemaRecovery.Script.Pattern.Reader

set_option autoImplicit false

namespace SchemaRecovery.Script.Pattern

structure Bounds where
  low : Nat
  high : Nat

def bracedBounds? : Reader (Option Bounds) := do
  let before ← get
  let low ← takeWhile before.rest.length isDigit
  let comma ← accept ','
  let high ← if comma then takeWhile before.rest.length isDigit else pure low
  if (!comma && low.isEmpty) || !(← accept '\x7d') then
    set before
    return none
  let bounds : Bounds :=
    ⟨numberIn 10 low, if high.isEmpty then repeatLimit else numberIn 10 high⟩
  if (!low.isEmpty && bounds.low ≥ repeatLimit) || (!high.isEmpty && bounds.high ≥ repeatLimit) then
    failure
  if bounds.high < bounds.low then failure
  return some bounds

def bounds? (c : Char) : Reader (Option Bounds) :=
  if c = '?' then return some ⟨0, 1⟩
  else if c = '*' then return some ⟨0, repeatLimit⟩
  else if c = '+' then return some ⟨1, repeatLimit⟩
  else if c = '\x7b' then bracedBounds?
  else return none

def applyBounds (bounds : Bounds) : List Item → Reader (List Item)
  | [] => failure
  | item :: items =>
    if item.kind = .other then do
      if !(← accept '?') then
        let _ ← accept '+'
      modify fun state => { state with repeats := true }
      return ⟨.repeated, item.width.times bounds.low bounds.high⟩ :: items
    else
      failure

end SchemaRecovery.Script.Pattern
