import SchemaRecovery.Schema.Catalog
import SchemaRecovery.Text.Lines

set_option autoImplicit false

namespace SchemaRecovery.Schema

def Field.listed (field : Field) : String :=
  field.name ++ " = " ++ intOr field.id ++ ": " ++ field.type.getD "None" ++ " "
    ++ Text.quotedList field.flags

def Member.listing : Member → List String
  | .field single => ["    " ++ single.listed]
  | .oneof group => ("    Oneof " ++ group.name) :: group.members.map fun field => "      " ++ field.listed

def Definition.listing (definition : Definition) : List String :=
  let exported := definition.name ++ " (alias=" ++ definition.localName.getD "None" ++ ")"
  if definition.isMessage then
    ("  Message " ++ exported) :: definition.memberList.flatMap Member.listing
  else if definition.isEnum then
    ("  Enum " ++ exported) :: definition.values.map fun value =>
      "    " ++ value.name ++ " = " ++ Decimal.intNumeral value.id
  else ["  Shell " ++ definition.name]

def Module.listing (module : Module) : List String :=
  ("Module " ++ module.name)
    :: (module.loads.map fun load => "  CrossRef " ++ load.localName ++ " -> " ++ load.target)
    ++ module.definitions.flatMap Definition.listing

def Catalog.listing (catalog : Catalog) : String :=
  let warnings :=
    if catalog.warnings.isEmpty then []
    else "Warnings" :: catalog.warnings.map fun warning => "  " ++ warning.text
  Text.joinLines (catalog.modules.flatMap Module.listing ++ warnings)

end SchemaRecovery.Schema
