import SchemaRecovery.Proto.Layout
import SchemaRecovery.Settings
import SchemaRecovery.Text.Lines

set_option autoImplicit false

namespace SchemaRecovery.Proto

open Schema (Catalog Definition EnumValue Field Member Warning)

def unresolvedType : String := "__unresolved__"

inductive FieldPlace where
  | alone
  | inOneof
deriving Repr, DecidableEq

def keepsRepeated (place : FieldPlace) (field : Field) : Bool :=
  field.hasFlag "repeated" && place = .alone && !field.isMap

def keepsPacked (place : FieldPlace) (field : Field) : Bool :=
  field.hasFlag "packed" && keepsRepeated place field

inductive Dropped where
  | packedOnMap
  | packedInOneof
  | packedWithoutRepeated
  | repeatedInOneof
deriving Repr, DecidableEq

namespace Dropped

def kind : Dropped → String
  | packedOnMap => "packed_on_map"
  | packedInOneof => "packed_in_oneof"
  | packedWithoutRepeated => "packed_without_repeated"
  | repeatedInOneof => "repeated_in_oneof"

def message : Dropped → String
  | packedOnMap => "Dropped packed option from a map field"
  | packedInOneof => "Dropped packed option from a oneof member"
  | packedWithoutRepeated => "Dropped packed option from a field that is not repeated"
  | repeatedInOneof => "Dropped repeated label from a oneof member"

end Dropped

def droppedPacked (place : FieldPlace) (field : Field) : List Dropped :=
  if !field.hasFlag "packed" then []
  else if field.isMap then [.packedOnMap]
  else if place = .inOneof then [.packedInOneof]
  else if !field.hasFlag "repeated" then [.packedWithoutRepeated]
  else []

def droppedRepeated (place : FieldPlace) (field : Field) : List Dropped :=
  if field.hasFlag "repeated" ∧ place = .inOneof ∧ ¬ field.isMap then [.repeatedInOneof] else []

def dropped (place : FieldPlace) (field : Field) : List Dropped :=
  droppedPacked place field ++ droppedRepeated place field

def warnAbout (definition : Definition) (kind message : String) (field : Option String) : Warning :=
  ⟨kind, message, definition.module, some definition.name, field⟩

def printedTypes (layout : Layout) (message : String) (field : Field) : List String :=
  match field.type, field.mapTypes with
  | none, _ => [unresolvedType]
  | some _, some (key, value) => [layout.reference key message, layout.reference value message]
  | some type, none => [layout.reference type message]

def typeText : List String → String
  | [key, value] => "map<" ++ key ++ ", " ++ value ++ ">"
  | types => String.join types

def fieldLine (layout : Layout) (message : String) (place : FieldPlace) (field : Field) : String :=
  (if keepsRepeated place field then "repeated " else "")
    ++ typeText (printedTypes layout message field) ++ " " ++ field.name ++ " = "
    ++ Schema.intOr field.id ++ (if keepsPacked place field then " [packed=true]" else "") ++ ";"

def indentLines (indent : String) (lines : List String) : List String :=
  lines.map fun line => indent ++ line

def memberLines (layout : Layout) (indent message : String) : Member → List String
  | .field single => [fieldLine layout message .alone single]
  | .oneof group =>
    ("oneof " ++ group.name ++ " \x7b")
      :: indentLines indent (group.members.map (fieldLine layout message .inOneof)) ++ ["\x7d"]

def valueLine (value : EnumValue) : String :=
  value.name ++ " = " ++ Decimal.intNumeral value.id ++ ";"

inductive Form where
  | message
  | enum
  | unknown
deriving Repr, DecidableEq

def formOf (definition : Definition) (nested : List Block) : Form :=
  if definition.isMessage || !nested.isEmpty then .message
  else if definition.isEnum then .enum
  else .unknown

mutual
def Block.lines (layout : Layout) (indent : String) : Block → List String
  | .node definition shown nested =>
    match formOf definition nested with
    | .message =>
      let members := definition.memberList.flatMap (memberLines layout indent definition.name)
      ("message " ++ shown ++ " \x7b")
        :: indentLines indent (members ++ Block.linesOf layout indent nested) ++ ["\x7d"]
    | .enum =>
      ("enum " ++ shown ++ " \x7b") :: indentLines indent (definition.values.map valueLine) ++ ["\x7d"]
    | .unknown => ["// Unknown entity " ++ definition.name]

def Block.linesOf (layout : Layout) (indent : String) : List Block → List String
  | [] => []
  | block :: blocks => Block.lines layout indent block ++ Block.linesOf layout indent blocks
end

def fieldWarnings (definition : Definition) (place : FieldPlace) (field : Field) : List Warning :=
  (dropped place field).map fun mark => warnAbout definition mark.kind mark.message (some field.name)

def memberWarnings (definition : Definition) : Member → List Warning
  | .field single => fieldWarnings definition .alone single
  | .oneof group => group.members.flatMap (fieldWarnings definition .inOneof)

mutual
def Block.warnings : Block → List Warning
  | .node definition _ nested =>
    match formOf definition nested with
    | .message =>
      definition.memberList.flatMap (memberWarnings definition) ++ Block.warningsOf nested
    | .enum => []
    | .unknown =>
      [warnAbout definition "bare_identifier" "Identifier has neither fields nor enum values" none]

def Block.warningsOf : List Block → List Warning
  | [] => []
  | block :: blocks => Block.warnings block ++ Block.warningsOf blocks
end

structure Edition where
  version : String
  generatedOn : String
deriving Repr, DecidableEq

def header (settings : Settings) (edition : Edition) (entities : Nat) : List String := [
  "syntax = \"proto3\";",
  "package " ++ settings.package ++ ";",
  "",
  "/// " ++ settings.clientLabel ++ " Version: " ++ edition.version,
  "/// Generated on: " ++ edition.generatedOn,
  "/// Entities found: " ++ Decimal.numeral entities,
  ""]

def bodyText (blocks : List String) : String :=
  if blocks.isEmpty then "" else String.intercalate "\n\n" blocks ++ "\n"

structure Document where
  text : String
  entities : Nat
  warnings : List Warning
  log : List String
deriving Repr

def Document.ofLayout (settings : Settings) (edition : Edition) (layout : Layout) : Document :=
  let blocks := layout.blocks
  let entities := blocks.length
  let texts := blocks.map fun block => Text.joinLines (block.lines layout settings.indent)
  { text := Text.joinLines (header settings edition entities) ++ "\n" ++ bodyText texts
    entities := entities
    warnings := layout.warnings ++ Block.warningsOf blocks
    log := layout.log ++ ["[PROTO3] rendered " ++ Decimal.numeral entities ++ " top-level entities"] }

def Document.ofCatalog (settings : Settings) (edition : Edition) (catalog : Catalog) : Document :=
  Document.ofLayout settings edition (Layout.ofCatalog catalog)

end SchemaRecovery.Proto
