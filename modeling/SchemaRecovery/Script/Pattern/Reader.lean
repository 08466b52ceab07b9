import SchemaRecovery.Script.Pattern.Basic
import SchemaRecovery.Script.Pattern.Piece

set_option autoImplicit false

namespace SchemaRecovery.Script.Pattern

structure Width where
  least : Nat
  most : Nat

def repeatLimit : Nat := 4294967295

def Width.add (a b : Width) : Width := ⟨a.least + b.least, a.most + b.most⟩

def Width.either (a b : Width) : Width := ⟨min a.least b.least, max a.most b.most⟩

def Width.capped (w : Width) : Width := ⟨min w.least (repeatLimit - 1), min w.most repeatLimit⟩

def Width.times (w : Width) (low high : Nat) : Width := ⟨w.least * low, w.most * high⟩

inductive ItemKind where
  | position
  | repeated
  | other
deriving DecidableEq

structure Item where
  kind : ItemKind
  width : Width

def Item.position : Item := ⟨.position, ⟨0, 0⟩⟩

def Item.single : Item := ⟨.other, ⟨1, 1⟩⟩

structure Groups where
  -- Groups met so far, group zero being the whole pattern; an open group has no width yet.
  -- `behind` is the number of groups at the start of the outermost look-behind.
  widths : List (Option Width) := [none]
  names : List (List Char × Nat) := []
  deferred : List Nat := []
  behind : Option Nat := none

structure State where
  rest : List Piece
  flags : List PatternFlag
  groups : Groups := {}
  repeats : Bool := false

abbrev Reader := StateT State Option

def rest : Reader (List Piece) := do return (← get).rest

def skip (count : Nat) : Reader Unit := modify fun state => { state with rest := state.rest.drop count }

def next : Reader Piece := do
  match ← rest with
  | [] => failure
  | piece :: _ => skip 1; return piece

def nextChar : Reader Char := do
  match (← next).char? with
  | some c => return c
  | none => failure

def accept (c : Char) : Reader Bool := do
  if (← rest).head?.any (·.is c) then
    skip 1
    return true
  else
    return false

def expect (c : Char) : Reader Unit := do
  if !(← accept c) then failure

def takeWhile (limit : Nat) (p : Char → Bool) : Reader (List Char) := do
  let taken := ((← rest).take limit).takeWhile fun piece => piece.char?.any p
  skip taken.length
  return taken.filterMap Piece.char?

def nameUntil (stop : Char) : Reader (List Char) := do
  let pieces := (← rest).takeWhile fun piece => !piece.is stop
  if pieces.isEmpty then failure
  skip pieces.length
  expect stop
  StateT.lift ((pieces.flatMap Piece.codes).mapM Text.charOf?)

def groups : Reader Groups := do return (← get).groups

def modifyGroups (f : Groups → Groups) : Reader Unit :=
  modify fun state => { state with groups := f state.groups }

def isGoverned (flag : PatternFlag) : Reader Bool := do return (← get).flags.contains flag

def isDigit (c : Char) : Bool := '0' ≤ c && c ≤ '9'

def reference (index : Nat) : Reader Item := do
  let known ← groups
  match known.widths[index]? with
  | some (some width) =>
    if known.behind.any (· ≤ index) then failure
    return ⟨.other, width⟩
  | _ => failure

def groupNamed (name : List Char) : Reader Nat := do
  match (← groups).names.lookup name with
  | some index => return index
  | none => failure

def openGroup (name? : Option (List Char)) : Reader Nat := do
  let known ← groups
  let index := known.widths.length
  if name?.any fun name => (known.names.lookup name).isSome then failure
  modifyGroups fun known => { known with
    widths := known.widths ++ [none]
    names := (name?.map fun name => (name, index)).toList ++ known.names }
  return index

def closeGroup (index : Nat) (width : Width) : Reader Unit :=
  modifyGroups fun known => { known with widths := known.widths.set index (some width) }

end SchemaRecovery.Script.Pattern
