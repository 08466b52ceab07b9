import SchemaRecovery.Script.Token.Basic

set_option autoImplicit false

namespace SchemaRecovery.Script

structure QuoteEscape where
  used : Nat
  code? : Option Nat
  octal : Bool

def quoteEscape (place : Place) : List Char → Except Fault QuoteEscape
  | [] => .ok ⟨1, some 0, false⟩
  | c :: rest =>
    if c = 'u' then
      let escape := unicodeEscape rest
      match escape.code? with
      | none => .error ((place.advance (escape.used + 1)).fault .illegal)
      | some code => .ok ⟨escape.used + 1, some code, false⟩
    else if c = 'x' then
      let escape := hexEscape 2 rest
      match escape.code? with
      | none => .error ((place.advance (escape.used + 1)).fault .badHexEscape)
      | some code => .ok ⟨escape.used + 1, some code, false⟩
    else if c = '8' ∨ c = '9' then .error ((place.advance 1).fault .illegal)
    else if isOctal c then
      let escape := octalEscape (c :: rest)
      .ok ⟨escape.used, escape.code?, c != '0' || escape.used != 1⟩
    else if c = '\r' ∧ rest.head? = some '\n' then .ok ⟨2, none, false⟩
    else if Text.isScriptLineEnd c then .ok ⟨1, none, false⟩
    else .ok ⟨1, some ((controlEscape? c).getD c.toNat), false⟩

structure QuotedText where
  codes : List Nat
  octal : Bool
  stop : Cursor

def scanQuoted (quote : Char) (opened : Nat) (text : List Char) (place : Place) :
    Except Fault QuotedText :=
  match text with
  | [] => .error (Place.fault { place with index := opened } .illegal)
  | '\\' :: rest => do
    let escape ← quoteEscape (place.advance 1) rest
    let after := Cursor.pass ⟨rest, place.advance 1⟩ escape.used
    let quoted ← scanQuoted quote opened (rest.drop escape.used) after.place
    .ok { quoted with
      codes := escape.code?.toList ++ quoted.codes
      octal := escape.octal || quoted.octal }
  | c :: rest =>
    if c = quote then
      .ok ⟨[], false, ⟨rest, place.advance 1⟩⟩
    else if Text.isScriptLineEnd c then
      .error (Place.fault { place with index := opened } .illegal)
    else do
      let quoted ← scanQuoted quote opened rest (place.advance 1)
      .ok { quoted with codes := c.toNat :: quoted.codes }
termination_by text.length
decreasing_by all_goals simp; try omega

def scanString (start : Cursor) : Except Fault (Token × Cursor) := do
  let quoted ← scanQuoted (start.peek 0) start.place.index (start.rest.drop 1)
    (start.place.advance 1)
  let value := String.ofList (Text.held quoted.codes)
  .ok (⟨.text, value, start.textTo quoted.stop, start.place.index, quoted.stop.place.line,
    .text value, quoted.octal, false, false⟩, quoted.stop)

def templateEscape (place : Place) : List Char → Except Fault Nat
  -- How many characters a backslash in a template covers beyond itself. Malformed code points in
  -- braces and two-digit escapes are refused, malformed four-digit ones are not.
  | [] => .ok 1
  | c :: rest =>
    if c = 'u' then
      let escape := unicodeEscape rest
      match escape.code? with
      | some _ => .ok (escape.used + 1)
      | none =>
        if rest.head? = some '\x7b' then
          .error ((place.advance (escape.used + 1)).fault .illegal)
        else
          .ok 1
    else if c = 'x' then
      let escape := hexEscape 2 rest
      if escape.code?.isNone then .error ((place.advance (escape.used + 1)).fault .badHexEscape)
      else .ok (escape.used + 1)
    else if c = '0' then
      match rest with
      | d :: _ =>
        if '0' ≤ d ∧ d ≤ '9' then .error ((place.advance 1).fault .octalInTemplate) else .ok 1
      | [] => .ok 1
    else if isOctal c then .error ((place.advance 1).fault .octalInTemplate)
    else if c = '\r' ∧ rest.head? = some '\n' then .ok 2
    else .ok 1

def scanTemplateBody (text : List Char) (place : Place) : Except Fault (Bool × Cursor) :=
  match text with
  | [] => .error (place.fault .illegal)
  | '\x60' :: rest => .ok (true, ⟨rest, place.advance 1⟩)
  | '$' :: '\x7b' :: rest => .ok (false, ⟨rest, place.advance 2⟩)
  | '\\' :: rest => do
    let used ← templateEscape (place.advance 1) rest
    let after := Cursor.pass ⟨rest, place.advance 1⟩ used
    scanTemplateBody (rest.drop used) after.place
  | c :: rest => scanTemplateBody rest (place.past c rest)
termination_by text.length
decreasing_by all_goals simp; try omega

def scanTemplatePart (start : Cursor) : Except Fault (Token × Cursor) := do
  let (closes, stop) ← scanTemplateBody (start.rest.drop 1) (start.place.advance 1)
  let raw := start.textTo stop
  let word := String.ofList ((raw.toList.drop 1).take (raw.length - if closes then 2 else 3))
  .ok (⟨.template, word, raw, start.place.index, stop.place.line, .null, false,
    start.peek 0 == '\x60', closes⟩, stop)

end SchemaRecovery.Script
