import SchemaRecovery.Decimal.Numeral
import SchemaRecovery.Script.Escape
import SchemaRecovery.Text.Identifier

set_option autoImplicit false

namespace SchemaRecovery

structure SourcePatch where
  pattern : String
  replacement : String
deriving Repr, DecidableEq

namespace SourcePatch

structure Needle where
  text : List Char
  guard? : Option (List Char)
deriving Repr, DecidableEq

def readNeedle : List Char → Needle
  | [] => ⟨[], none⟩
  | '\\' :: c :: rest => let needle := readNeedle rest; { needle with text := c :: needle.text }
  | '(' :: '?' :: '!' :: rest => ⟨[], some rest.dropLast⟩
  | c :: rest => let needle := readNeedle rest; { needle with text := c :: needle.text }

def Needle.startsAt (needle : Needle) (text : List Char) : Bool :=
  needle.text.isPrefixOf text &&
    !(needle.guard?.any fun guard => guard.isPrefixOf (text.drop needle.text.length))

def substitute (needle : Needle) (replacement : List Char) (text : List Char) : List Char :=
  match text with
  | [] => if needle.startsAt [] then replacement else []
  | c :: rest =>
    if needle.startsAt (c :: rest) then
      if needle.text.isEmpty then
        replacement ++ c :: substitute needle replacement rest
      else
        replacement ++ substitute needle replacement (rest.drop (needle.text.length - 1))
    else
      c :: substitute needle replacement rest
termination_by text.length
decreasing_by all_goals simp; try omega

inductive Fault where
  | badEscape
  | unknownGroup
deriving Repr, DecidableEq

inductive Part where
  | char (c : Char)
  | wholeMatch
deriving Repr, DecidableEq

def Part.chars (found : List Char) : Part → List Char
  | char c => [c]
  | wholeMatch => found

def nameLength? : List Char → Option Nat
  | [] | ['\\'] => none
  | '\\' :: _ :: rest => (nameLength? rest).map (· + 2)
  | c :: rest => if c = '>' then some 0 else (nameLength? rest).map (· + 1)

def readGroup (text : List Char) : Except Fault (Part × Nat) :=
  -- What stands for a group, from its name on: the part, and how many characters name it. The
  -- only group of a pattern is the whole match, which has number zero and no name.
  match nameLength? text with
  | none | some 0 => .error .badEscape
  | some length =>
    let name := text.take length
    if Text.isIdentifier name then
      if text.drop (length + 1) = ['\\'] then .error .badEscape else .error .unknownGroup
    else if Decimal.readInt (String.ofList name) = some 0 then
      .ok (.wholeMatch, length + 1)
    else
      .error .badEscape

def readOctal (c : Char) (rest : List Char) : Except Fault (Part × Nat) :=
  let ds := (rest.take 2).takeWhile Script.isOctal
  let code := Script.numberIn 8 (c :: ds)
  if c = '0' ∨ Script.isOctal c ∧ ds.length = 2 ∧ code ≤ 0o377 then
    .ok (.char (Char.ofNat code), ds.length + 1)
  else
    .error .badEscape

def readEscape : List Char → Except Fault (List Part × Nat)
  -- The parts behind a backslash, and how many characters spell them. A sign that is no letter
  -- keeps its backslash.
  | [] => .error .badEscape
  | c :: rest =>
    if c = 'g' then
      match rest with
      | '<' :: rest => do
        let (part, used) ← readGroup rest
        .ok ([part], used + 2)
      | _ => .error .badEscape
    else if '0' ≤ c ∧ c ≤ '9' then do
      let (part, used) ← readOctal c rest
      .ok ([part], used)
    else
      match Script.controlEscape? c with
      | some code => .ok ([.char (Char.ofNat code)], 1)
      | none =>
        if c = 'a' then .ok ([.char '\x07'], 1)
        else if c = '\\' then .ok ([.char c], 1)
        else if c.isAlpha then .error .badEscape
        else .ok ([.char '\\', .char c], 1)

def readReplacement (text : List Char) : Except Fault (List Part) :=
  match text with
  | [] => .ok []
  | '\\' :: rest => do
    let (parts, used) ← readEscape rest
    let more ← readReplacement (rest.drop used)
    .ok (parts ++ more)
  | c :: rest => do
    let more ← readReplacement rest
    .ok (.char c :: more)
termination_by text.length
decreasing_by all_goals simp; try omega

def apply (patch : SourcePatch) (source : String) : Except Fault String := do
  -- The text with every match replaced. What is wrong with a replacement shows also where
  -- nothing matches.
  let needle := readNeedle patch.pattern.toList
  let parts ← readReplacement patch.replacement.toList
  .ok (String.ofList (substitute needle (parts.flatMap (Part.chars needle.text)) source.toList))

def limitSharing : SourcePatch :=
  -- Keeps an enum apart from a nested message of the same name.
  ⟨"LimitSharing\\$Trigger(?!Type)", "LimitSharing$TriggerType"⟩

end SourcePatch

end SchemaRecovery
