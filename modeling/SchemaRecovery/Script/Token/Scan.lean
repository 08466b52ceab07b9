import SchemaRecovery.Script.Pattern.Literal
import SchemaRecovery.Script.Token.Name
import SchemaRecovery.Script.Token.Number
import SchemaRecovery.Script.Token.Quoted

set_option autoImplicit false

namespace SchemaRecovery.Script

structure Scanner where
  -- A cursor with the open braces before it, the innermost first; `true` marks a substitution.
  cursor : Cursor
  braces : List Bool
deriving Inhabited

def scanPunctuator (scanner : Scanner) : Except Fault (Token × Scanner) :=
  let start := scanner.cursor
  match punctuatorAt? start.rest with
  | none => .error (start.fault .illegal)
  | some word =>
    let stop := start.advance word.length
    let braces :=
      if word = "\x7b" then false :: scanner.braces
      else if word = "\x7d" then scanner.braces.tail
      else scanner.braces
    .ok (⟨.punctuator, word, word, start.place.index, stop.place.line, .null, false, false, false⟩,
      ⟨stop, braces⟩)

def scanTemplate (scanner : Scanner) : Except Fault (Token × Scanner) := do
  let (token, stop) ← scanTemplatePart scanner.cursor
  let braces := if token.closes then scanner.braces else true :: scanner.braces
  .ok (token, ⟨stop, if token.opens then braces else braces.tail⟩)

def Scanner.token (scanner : Scanner) : Except Fault (Token × Scanner) := do
  let start := scanner.cursor
  match start.rest with
  | [] =>
    .ok (⟨.endOfText, "", "", start.place.index, start.place.line, .null, false, false, false⟩,
      scanner)
  | c :: rest =>
    if isNameStart c then
      let (token, stop) ← scanWord start
      .ok (token, { scanner with cursor := stop })
    else if c = '\x27' ∨ c = '\x22' then
      let (token, stop) ← scanString start
      .ok (token, { scanner with cursor := stop })
    else if isDecimalDigit c || (c == '.' && rest.head?.any isDecimalDigit) then
      let (token, stop) ← scanNumber start
      .ok (token, { scanner with cursor := stop })
    else if c = '\x60' ∨ (c = '\x7d' ∧ scanner.braces.head? = some true) then
      scanTemplate scanner
    else
      scanPunctuator scanner

def Scanner.peek (scanner : Scanner) : Except Fault (Token × Scanner) := do
  -- A token further on, without the change that it makes to the open braces being undone.
  let cursor ← scanner.cursor.skip
  let (token, after) ← Scanner.token { scanner with cursor := cursor }
  .ok (token, { scanner with braces := after.braces })

def patternBody (inSet : Bool) (place : Place) : List Char → Except Fault (List Char)
  | [] => .error (place.fault .unterminatedPattern)
  | ['\\'] => .error ((place.advance 2).fault .unterminatedPattern)
  | '\\' :: c :: rest =>
    if Text.isScriptLineEnd c then .error ((place.advance 2).fault .unterminatedPattern)
    else do
      let body ← patternBody inSet (place.advance 2) rest
      .ok ('\\' :: c :: body)
  | c :: rest =>
    if Text.isScriptLineEnd c then .error ((place.advance 1).fault .unterminatedPattern)
    else if c = '/' ∧ !inSet then .ok []
    else do
      let inSet := if inSet then c != ']' else c == '['
      let body ← patternBody inSet (place.advance 1) rest
      .ok (c :: body)

def scanPatternFlags (start : Cursor) : Except Fault (List Char × Cursor) :=
  let flags := start.rest.takeWhile fun c => isNamePart c && c != '\\'
  let stop := start.advance flags.length
  match stop.rest with
  | '\\' :: 'u' :: rest =>
    let escape := hexEscape 4 rest
    .error ((stop.advance (if escape.code?.isSome then 6 else 2)).fault .illegal)
  | '\\' :: _ :: _ => .error ((stop.advance 1).fault .illegal)
  | ['\\'] => .ok (flags, stop.advance 1)
  | _ => .ok (flags, stop)

def scanPattern (start : Cursor) : Except Fault (Token × Cursor) := do
  let body ← patternBody false (start.place.advance 1) (start.rest.drop 1)
  let (flags, stop) ← scanPatternFlags (start.advance (body.length + 2))
  match Pattern.ofLiteral? body flags with
  | none => .error (stop.fault .badPattern)
  | some pattern =>
    .ok (⟨.pattern, "", start.textTo stop, start.place.index, stop.place.line, .pattern pattern, false,
      false, false⟩, stop)

end SchemaRecovery.Script
