import SchemaRecovery.Decimal.Numeral

set_option autoImplicit false

namespace SchemaRecovery.Schema

def intOr (n? : Option Int) : String := (n?.map Decimal.intNumeral).getD "None"

structure Unresolved where
  reason : String
  expression : Option String
deriving Repr, DecidableEq

def Unresolved.summary (unresolved : Unresolved) : String :=
  "UnresolvedReference(reason=" ++ Text.quoted unresolved.reason ++
    ", expression=" ++ Text.quotedOr unresolved.expression ++ ")"

structure Field where
  name : String
  id : Option Int
  type : Option String := none
  flags : List String := []
  mapTypes : Option (String × String) := none
  unresolved : Option Unresolved := none
deriving Repr, DecidableEq

namespace Field

def isMap (field : Field) : Bool := field.mapTypes.isSome

def hasFlag (field : Field) (flag : String) : Bool := field.flags.contains flag

def summary (field : Field) : String :=
  "ProtoField(name=" ++ Text.quoted field.name ++ ", id=" ++ intOr field.id ++
    ", type=" ++ Text.quotedOr field.type ++ ", flags=" ++ Text.quotedList field.flags ++ ")"

end Field

structure Oneof where
  name : String
  members : List Field
deriving Repr, DecidableEq

def Oneof.summary (oneof : Oneof) : String :=
  "OneofGroup(name=" ++ Text.quoted oneof.name ++
    ", members=" ++ Text.quotedList (oneof.members.map (·.name)) ++ ")"

inductive Member where
  | field (single : Field)
  | oneof (group : Oneof)
deriving Repr, DecidableEq

namespace Member

def field? : Member → Option Field
  | field single => some single
  | oneof _ => none

def oneof? : Member → Option Oneof
  | field _ => none
  | oneof group => some group

def mapFields (change : Field → Field) : Member → Member
  | field single => field (change single)
  | oneof group => oneof { group with members := group.members.map change }

def fields : Member → List Field
  | field single => [single]
  | oneof group => group.members

end Member

structure EnumValue where
  name : String
  id : Int
deriving Repr, DecidableEq

def EnumValue.summary (value : EnumValue) : String :=
  "EnumValue(" ++ Text.quoted value.name ++ ", " ++ Decimal.intNumeral value.id ++ ")"

structure Definition where
  -- A name that a module exports. It is a message once it has members, an enum if it has none
  -- but at least one value, and a shell otherwise. `localName` is the local variable that it is
  -- exported from.
  name : String
  nestingPath : String := ""
  localName : Option String := none
  members : Option (List Member) := none
  enumValues : Option (List EnumValue) := none
  module : Option String := none
deriving Repr, DecidableEq

namespace Definition

def isMessage (definition : Definition) : Bool := definition.members.isSome

def values (definition : Definition) : List EnumValue := definition.enumValues.getD []

def hasValues (definition : Definition) : Bool := !definition.values.isEmpty

def isEnum (definition : Definition) : Bool := !definition.isMessage && definition.hasValues

def isShell (definition : Definition) : Bool := !definition.isMessage && !definition.isEnum

def memberList (definition : Definition) : List Member := definition.members.getD []

def fields (definition : Definition) : List Field := definition.memberList.filterMap (·.field?)

def oneofs (definition : Definition) : List Oneof := definition.memberList.filterMap (·.oneof?)

def allFields (definition : Definition) : List Field := definition.memberList.flatMap (·.fields)

def addMember (definition : Definition) (member : Member) : Definition :=
  { definition with members := some (definition.memberList ++ [member]) }

def kindText (definition : Definition) : String :=
  if definition.isMessage then "message" else if definition.isEnum then "enum" else "shell"

def summary (definition : Definition) : String :=
  "Identifier(name=" ++ Text.quoted definition.name ++ ", kind=" ++ definition.kindText ++
    ", alias=" ++ Text.quotedOr definition.localName ++ ")"

end Definition

end SchemaRecovery.Schema
