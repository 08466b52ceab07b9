import SchemaRecovery.Proto.Declaration
import SchemaRecovery.Proto.Token

set_option autoImplicit false

namespace SchemaRecovery.Proto

abbrev Parts := List String

def Parts.text (parts : Parts) : String := String.intercalate "." parts.reverse

inductive TypeUse where
  | package
  | field (label : Option Label)
  | mapKey
  | mapValue (key : String)
deriving Repr, DecidableEq

structure FieldHead where
  label : Option Label
  types : List String
deriving Repr, DecidableEq

inductive BlockKind where
  | message
  | oneof
  | enum
deriving Repr, DecidableEq

inductive Point where
  | top
  | syntaxEqual
  | syntaxText
  | statementEnd
  | typePart (use : TypeUse) (parts : Parts)
  | typeNext (use : TypeUse) (parts : Parts)
  | blockName (kind : BlockKind)
  | blockOpen (kind : BlockKind) (name : String) (line : Nat)
  | blockClosed
  | messageBody
  | oneofStart
  | oneofBody
  | enumBody
  | mapOpen
  | mapName (types : List String)
  | fieldEqual (head : FieldHead) (name : String) (line : Nat)
  | fieldNumber (head : FieldHead) (name : String) (line : Nat)
  | fieldOptions (field : FieldDeclaration)
  | optionName (field : FieldDeclaration)
  | optionEqual (field : FieldDeclaration)
  | optionValue (field : FieldDeclaration)
  | optionNext (field : FieldDeclaration)
  | fieldEnd (field : FieldDeclaration)
  | valueEqual (name : String)
  | valueNumber (name : String)
  | valueEnd (value : Schema.EnumValue)
deriving Repr, DecidableEq

def topTerminals : List Terminal := [
  .keyword .syntaxWord, .keyword .packageWord, .keyword .messageWord, .keyword .enumWord, .endOfText]

def fieldTerminals : List Terminal := [
  .mark .rightBrace, .keyword .repeatedWord, .keyword .requiredWord, .keyword .optionalWord, .name]

def bodyTerminals : List Terminal :=
  fieldTerminals ++
    [.keyword .mapWord, .keyword .oneofWord, .keyword .messageWord, .keyword .enumWord]

def Point.accepted : Point → List Terminal
  | top => topTerminals
  | syntaxEqual | fieldEqual .. | optionEqual _ | valueEqual _ => [.mark .equal]
  | syntaxText => [.quotedText]
  | statementEnd | fieldEnd _ | valueEnd _ => [.mark .semicolon]
  | typePart .. | blockName _ | mapName _ | optionName _ => [.name]
  | typeNext .. => [.mark .dot, .mark .semicolon, .name, .mark .comma, .mark .more]
  | blockOpen .. => [.mark .leftBrace]
  | blockClosed => topTerminals ++ bodyTerminals
  | messageBody | oneofBody => bodyTerminals
  | oneofStart => fieldTerminals
  | enumBody => [.name, .mark .rightBrace]
  | mapOpen => [.mark .less]
  | fieldNumber .. => [.number]
  | fieldOptions _ => [.mark .leftBracket, .mark .semicolon]
  | optionValue _ => [.name, .number]
  | optionNext _ => [.mark .comma, .mark .rightBracket]
  | valueNumber _ => [.signedNumber]

inductive Frame where
  | message (name : String) (line : Nat) (members : List Declaration)
  | oneof (name : String) (line : Nat) (members : List FieldDeclaration)
  | enum (name : String) (line : Nat) (values : List Schema.EnumValue)
deriving Repr

structure Machine where
  point : Point
  frames : List Frame
  done : List Declaration
deriving Repr

namespace Machine

def start : Machine := ⟨.top, [], []⟩

def close (machine : Machine) (frames : List Frame) (declaration : Declaration) : Option Machine :=
  match frames with
  | [] => some ⟨.blockClosed, [], declaration :: machine.done⟩
  | .message name line members :: outer =>
    some { machine with
      point := .blockClosed, frames := .message name line (declaration :: members) :: outer }
  | _ => none

def atItem (machine : Machine) (token : Token) : Option Machine :=
  let goto (point : Point) : Option Machine := some { machine with point := point }
  match machine.frames, token.terminal with
  | [], .keyword .syntaxWord => goto .syntaxEqual
  | [], .keyword .packageWord => goto (.typePart .package [])
  | [], .keyword .messageWord => goto (.blockName .message)
  | [], .keyword .enumWord => goto (.blockName .enum)
  | .message name line members :: frames, .mark .rightBrace =>
    machine.close frames (.message name line members.reverse)
  | .message .. :: _, .keyword .messageWord => goto (.blockName .message)
  | .message .. :: _, .keyword .enumWord => goto (.blockName .enum)
  | .message .. :: _, .keyword .oneofWord => goto (.blockName .oneof)
  | .message .. :: _, .keyword .mapWord => goto .mapOpen
  | .oneof name line members :: .message outer outerLine others :: frames, .mark .rightBrace =>
    some { machine with
      point := .messageBody
      frames := .message outer outerLine (.oneof name line members.reverse :: others) :: frames }
  | .enum name line values :: frames, .mark .rightBrace =>
    machine.close frames (.enum name line values.reverse)
  | .enum .. :: _, .name => goto (.valueEqual token.text)
  | .message .. :: _, .name | .oneof .. :: _, .name =>
    goto (.typeNext (.field none) [token.text])
  | .message .. :: _, .keyword .repeatedWord | .oneof .. :: _, .keyword .repeatedWord =>
    goto (.typePart (.field (some .repeated)) [])
  | .message .. :: _, .keyword .requiredWord | .oneof .. :: _, .keyword .requiredWord =>
    goto (.typePart (.field (some .required)) [])
  | .message .. :: _, .keyword .optionalWord | .oneof .. :: _, .keyword .optionalWord =>
    goto (.typePart (.field (some .optional)) [])
  | _, _ => none

def addField (machine : Machine) (field : FieldDeclaration) : Option Machine :=
  match machine.frames with
  | .message name line members :: frames =>
    some { machine with
      point := .messageBody, frames := .message name line (.field field :: members) :: frames }
  | .oneof name line members :: frames =>
    some { machine with
      point := .oneofBody, frames := .oneof name line (field :: members) :: frames }
  | _ => none

def addValue (machine : Machine) (value : Schema.EnumValue) : Option Machine :=
  match machine.frames with
  | .enum name line values :: frames =>
    some { machine with point := .enumBody, frames := .enum name line (value :: values) :: frames }
  | _ => none

def openBlock (machine : Machine) (name : String) (line : Nat) : BlockKind → Machine
  | .message =>
    { machine with point := .messageBody, frames := .message name line [] :: machine.frames }
  | .oneof => { machine with point := .oneofStart, frames := .oneof name line [] :: machine.frames }
  | .enum => { machine with point := .enumBody, frames := .enum name line [] :: machine.frames }

def afterType (machine : Machine) (use : TypeUse) (parts : Parts) (token : Token) : Option Machine :=
  let goto (point : Point) : Option Machine := some { machine with point := point }
  match use, token.terminal with
  | .package, .mark .semicolon => goto .top
  | .field label, .name => goto (.fieldEqual ⟨label, [parts.text]⟩ token.text token.place.line)
  | .mapKey, .mark .comma => goto (.typePart (.mapValue parts.text) [])
  | .mapValue key, .mark .more => goto (.mapName [key, parts.text])
  | _, _ => none

def step (machine : Machine) (token : Token) : Option Machine :=
  let goto (point : Point) : Option Machine := some { machine with point := point }
  match machine.point, token.terminal with
  | .top, _ | .blockClosed, _ | .messageBody, _ | .oneofStart, _ | .oneofBody, _ | .enumBody, _ =>
    machine.atItem token
  | .syntaxEqual, .mark .equal => goto .syntaxText
  | .syntaxText, .quotedText => goto .statementEnd
  | .statementEnd, .mark .semicolon => goto .top
  | .typePart use parts, .name => goto (.typeNext use (token.text :: parts))
  | .typeNext use parts, .mark .dot => goto (.typePart use parts)
  | .typeNext use parts, _ => machine.afterType use parts token
  | .blockName kind, .name => goto (.blockOpen kind token.text token.place.line)
  | .blockOpen kind name line, .mark .leftBrace => some (machine.openBlock name line kind)
  | .mapOpen, .mark .less => goto (.typePart .mapKey [])
  | .mapName types, .name => goto (.fieldEqual ⟨none, types⟩ token.text token.place.line)
  | .fieldEqual head name line, .mark .equal => goto (.fieldNumber head name line)
  | .fieldNumber head name line, .number =>
    goto (.fieldOptions ⟨name, Decimal.valueOf token.text.toList, head.types, head.label, line⟩)
  | .fieldOptions field, .mark .leftBracket => goto (.optionName field)
  | .fieldOptions field, .mark .semicolon => machine.addField field
  | .optionName field, .name => goto (.optionEqual field)
  | .optionEqual field, .mark .equal => goto (.optionValue field)
  | .optionValue field, .name | .optionValue field, .number => goto (.optionNext field)
  | .optionNext field, .mark .comma => goto (.optionName field)
  | .optionNext field, .mark .rightBracket => goto (.fieldEnd field)
  | .fieldEnd field, .mark .semicolon => machine.addField field
  | .valueEqual name, .mark .equal => goto (.valueNumber name)
  | .valueNumber name, .signedNumber =>
    goto (.valueEnd ⟨name, (Decimal.readInt token.text).getD 0⟩)
  | .valueEnd value, .mark .semicolon => machine.addValue value
  | _, _ => none

def mayEnd (machine : Machine) : Bool :=
  machine.frames.isEmpty && (machine.point = .top || machine.point = .blockClosed)

end Machine

def Machine.run (machine : Machine) (last : Place) (source : Source) :
    Except SyntaxFault (List Declaration) :=
  -- Takes tokens until the text ends. The token at the end stands where the last one started.
  match _ : nextToken machine.point.accepted source with
  | .error fault => .error fault
  | .ok none =>
    if machine.mayEnd then .ok machine.done.reverse
    else .error (.unexpectedToken ⟨.endOfText, "", last⟩)
  | .ok (some (token, rest)) =>
    match machine.step token with
    | none => .error (.unexpectedToken token)
    | some machine => machine.run token.place rest
termination_by source.text.length
decreasing_by exact next_token_shorter ‹_›

def read (text : String) : Except SyntaxFault (List Declaration) :=
  Machine.start.run Place.start (Source.ofText text)

end SchemaRecovery.Proto
