import SchemaRecovery.Script.Fault
import SchemaRecovery.Text.Letter
import SchemaRecovery.Text.Lines

set_option autoImplicit false

namespace SchemaRecovery.Script

structure Place where
  index : Nat
  line : Nat
  lineStart : Nat
deriving Repr, DecidableEq, Inhabited

def Place.column (place : Place) : Int := (place.index : Int) - place.lineStart

def Place.advance (place : Place) (count : Nat) : Place :=
  { place with index := place.index + count }

def Place.past (place : Place) (c : Char) (rest : List Char) : Place :=
  let index := place.index + 1
  if Text.isScriptLineEnd c && !(c == '\r' && rest.head? == some '\n') then
    ⟨index, place.line + 1, index⟩
  else
    { place with index := index }

def Place.fault (place : Place) (complaint : Complaint) : Fault :=
  .refused place.line (place.column + 1) complaint

structure Cursor where
  rest : List Char
  place : Place
deriving Inhabited

def Cursor.ofText (text : List Char) : Cursor :=
  ⟨text, ⟨0, if text.isEmpty then 0 else 1, 0⟩⟩

def Cursor.peek (cursor : Cursor) (distance : Nat) : Char := cursor.rest.getD distance '\x00'

def Cursor.advance (cursor : Cursor) (count : Nat) : Cursor :=
  ⟨cursor.rest.drop count, cursor.place.advance count⟩

def Cursor.pass (cursor : Cursor) : Nat → Cursor
  | 0 => cursor
  | count + 1 =>
    match cursor.rest with
    | [] => cursor.advance (count + 1)
    | c :: rest => Cursor.pass ⟨rest, cursor.place.past c rest⟩ count

def Cursor.fault (cursor : Cursor) (complaint : Complaint) : Fault :=
  cursor.place.fault complaint

def Cursor.textTo (start stop : Cursor) : String :=
  String.ofList (start.rest.take (stop.place.index - start.place.index))

def isSpace (c : Char) : Bool :=
  ['\t', '\x0b', '\x0c', ' ', '\xa0', '\u1680', '\u180e', '\u202f', '\u205f', '\u3000',
    '\ufeff'].contains c || Text.within c (0x2000, 0x200A)

def extraStarts : List Char :=
  -- Characters counted among the letters of a name although their category is another one.
  ['$', '_', '\\', '\u1885', '\u1886', '\u2118', '\u212e', '\u309b', '\u309c']

def extraParts : List Char :=
  ['\u200c', '\u200d', '\xb7', '\u0387', '\u1369', '\u136a', '\u136b', '\u136c', '\u136d', '\u136e',
    '\u136f', '\u1370', '\u1371', '\u19da']

def isNameStart (c : Char) : Bool := Text.isLetter c || extraStarts.contains c

def isNamePart (c : Char) : Bool := isNameStart c || Text.isMark c || extraParts.contains c

inductive Trivia where
  -- Between tokens a scan is among blanks or in a comment. An arrow of three characters opens a
  -- comment only on a fresh line, and a comment keeps for later whether the line after it is
  -- fresh.
  | blanks (fresh : Bool)
  | lineComment (fresh : Bool)
  | blockComment (fresh : Bool)

def skipTrivia : Trivia → List Char → Place → Except Fault Cursor
  | .blockComment _, [], place => .error (place.fault .illegal)
  | _, [], place => .ok ⟨[], place⟩
  | .blockComment fresh, '*' :: '/' :: rest, place =>
    skipTrivia (.blanks fresh) rest (place.advance 2)
  | .blockComment fresh, c :: rest, place => skipTrivia (.blockComment fresh) rest (place.past c rest)
  | .lineComment fresh, '\r' :: '\n' :: rest, place =>
    skipTrivia (.blanks fresh) rest ((place.advance 1).past '\n' rest)
  | .lineComment fresh, c :: rest, place =>
    let next := if Text.isScriptLineEnd c then .blanks fresh else .lineComment fresh
    skipTrivia next rest (place.past c rest)
  | .blanks _, '/' :: '/' :: rest, place => skipTrivia (.lineComment true) rest (place.advance 2)
  | .blanks fresh, '/' :: '*' :: rest, place =>
    skipTrivia (.blockComment fresh) rest (place.advance 2)
  | .blanks fresh, '<' :: '!' :: '-' :: '-' :: rest, place =>
    skipTrivia (.lineComment fresh) rest (place.advance 4)
  | .blanks true, '-' :: '-' :: '>' :: rest, place =>
    skipTrivia (.lineComment true) rest (place.advance 3)
  | .blanks fresh, c :: rest, place =>
    if isSpace c then skipTrivia (.blanks fresh) rest (place.advance 1)
    else if Text.isScriptLineEnd c then skipTrivia (.blanks true) rest (place.past c rest)
    else .ok ⟨c :: rest, place⟩

def Cursor.skip (cursor : Cursor) : Except Fault Cursor :=
  skipTrivia (.blanks (cursor.place.index == 0)) cursor.rest cursor.place

end SchemaRecovery.Script
