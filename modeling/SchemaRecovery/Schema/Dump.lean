import SchemaRecovery.Schema.Catalog
import SchemaRecovery.Text.Json

set_option autoImplicit false

namespace SchemaRecovery.Schema

open Text (Json)

def Unresolved.data (unresolved : Unresolved) : Json :=
  .record [("reason", .text unresolved.reason), ("expression", .ofOption unresolved.expression)]

def Field.data (field : Field) : Json :=
  let mapTypes := field.mapTypes.toList.map fun (key, value) =>
    ("map_types", Json.texts [key, value])
  let unresolved := field.unresolved.toList.map fun why => ("unresolved", why.data)
  .record ([("name", .text field.name), ("id", .ofInt? field.id), ("type", .ofOption field.type),
    ("flags", .texts field.flags)] ++ mapTypes ++ unresolved)

def Member.data : Member → Json
  | .field single => single.data
  | .oneof group =>
    .record [("oneof", .text group.name), ("members", .list (group.members.map Field.data))]

def EnumValue.data (value : EnumValue) : Json :=
  .record [("name", .text value.name), ("id", .integer value.id)]

def Definition.data (definition : Definition) : Json :=
  let members := definition.members.toList.map fun members =>
    ("members", Json.list (members.map Member.data))
  let values :=
    if definition.hasValues then [("enum_values", Json.list (definition.values.map EnumValue.data))]
    else []
  .record ([("name", .text definition.name), ("nesting_path", .text definition.nestingPath),
    ("alias", .ofOption definition.localName)] ++ members ++ values)

def Load.data (load : Load) : Json :=
  .record [("alias", .text load.localName), ("module", .text load.target)]

def Module.data (module : Module) : Json :=
  .record [("name", .text module.name), ("cross_refs", .list (module.loads.map Load.data)),
    ("identifiers", .list (module.definitions.map Definition.data))]

def Nesting.data (nesting : Nesting) : Json :=
  .record (nesting.parents.map fun path => (path, .texts (nesting.childrenOf path)))

def Warning.data (warning : Warning) : Json :=
  .record [("kind", .text warning.kind), ("message", .text warning.message),
    ("module", .ofOption warning.module), ("identifier", .ofOption warning.definition),
    ("field", .ofOption warning.field)]

def Catalog.data (catalog : Catalog) : Json :=
  .record [("modules", .list (catalog.modules.map Module.data)), ("nesting", catalog.nesting.data),
    ("warnings", .list (catalog.warnings.map Warning.data))]

end SchemaRecovery.Schema
