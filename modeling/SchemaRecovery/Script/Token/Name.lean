import SchemaRecovery.Script.Token.Basic

set_option autoImplicit false

namespace SchemaRecovery.Script

def nameEscape? (first : Bool) (text : List Char) : Option (List Char) := do
  let code ← (unicodeEscape text).code?
  if text.head? = some '\x7b' then some (Text.hold code)
  else
    let c ← Text.charOf? code
    if c = '\\' then none
    else if first then (if isNameStart c then some [c] else none)
    else if isNamePart c then some [c]
    else none

def scanName (first : Bool) (text : List Char) (place : Place) : Except Fault (List Char × Cursor) :=
  match text with
  | [] => .ok ([], ⟨[], place⟩)
  | '\\' :: 'u' :: rest =>
    let used := (unicodeEscape rest).used
    let place := place.advance (used + 2)
    match nameEscape? first rest with
    | none => .error (place.fault .illegal)
    | some chars => do
      let (name, cursor) ← scanName false (rest.drop used) place
      .ok (chars ++ name, cursor)
  | '\\' :: _ => .error ((place.advance 1).fault .illegal)
  | c :: rest =>
    if isNamePart c then do
      let (name, cursor) ← scanName false rest (place.advance 1)
      .ok (c :: name, cursor)
    else
      .ok ([], ⟨c :: rest, place⟩)
termination_by text.length
decreasing_by all_goals simp; try omega

def scanWord (start : Cursor) : Except Fault (Token × Cursor) := do
  -- A name of one character is never a word of the language, and words are not written with
  -- escapes.
  let (name, stop) ← scanName true start.rest start.place
  let word := String.ofList name
  let kind := if name.length = 1 then .name else wordKind word
  if kind != .name && start.place.index + name.length != stop.place.index then
    .error (start.fault .escapedKeyword)
  else
    .ok (⟨kind, word, start.textTo stop, start.place.index, stop.place.line,
      if kind = .boolean then .boolean (word == "true") else .null, false, false, false⟩, stop)

end SchemaRecovery.Script
