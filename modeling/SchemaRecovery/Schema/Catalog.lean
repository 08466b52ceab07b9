import SchemaRecovery.Schema.Definition
import SchemaRecovery.Schema.Nesting
import SchemaRecovery.Script.Node

set_option autoImplicit false

namespace SchemaRecovery.Schema

structure Load where
  localName : String
  target : String
deriving Repr, DecidableEq

def Load.summary (load : Load) : String :=
  "CrossRef(alias=" ++ Text.quoted load.localName ++ ", target_module=" ++ Text.quoted load.target ++ ")"

structure Warning where
  kind : String
  message : String
  module : Option String := none
  definition : Option String := none
  field : Option String := none
deriving Repr, DecidableEq

namespace Warning

def place (label : String) (name? : Option String) : List String :=
  match name? with
  | none => []
  | some name => if name = "" then [] else [label ++ " '" ++ name ++ "'"]

def text (warning : Warning) : String :=
  let places := place "module" warning.module ++ place "message" warning.definition
    ++ place "field" warning.field
  let location := if places = [] then "" else " (" ++ String.intercalate ", " places ++ ")"
  "[" ++ warning.kind ++ "] " ++ warning.message ++ location

def summary (warning : Warning) : String :=
  "ResolutionWarning(kind=" ++ Text.quoted warning.kind ++
    ", message=" ++ Text.quoted warning.message ++ ")"

end Warning

structure Module where
  name : String
  statement : Script.Node
  loads : List Load := []
  definitions : List Definition := []

namespace Module

def loadOf? (module : Module) (localName : String) : Option Load :=
  module.loads.find? fun load => load.localName = localName

def ofLocalName? (module : Module) (localName : String) : Option Definition :=
  module.definitions.find? fun definition => definition.localName = some localName

def definition? (module : Module) (name : String) : Option Definition :=
  module.definitions.find? fun definition => definition.name = name

def defines (module : Module) (name : String) : Bool :=
  module.definitions.any fun definition => definition.name = name

def summary (module : Module) : String :=
  "BundleModule(name=" ++ Text.quoted module.name ++
    ", identifiers=" ++ Decimal.numeral module.definitions.length ++ ")"

end Module

def putDefinition (definition : Definition) : List Definition → List Definition
  | [] => [definition]
  | other :: rest =>
    if other.name = definition.name then definition :: rest
    else other :: putDefinition definition rest

structure Catalog where
  modules : List Module := []
  nesting : Nesting := {}
  warnings : List Warning := []

namespace Catalog

def withWarnings (catalog : Catalog) (warnings : List Warning) : Catalog :=
  { catalog with warnings := catalog.warnings ++ warnings }

def module? (catalog : Catalog) (name : String) : Option Module :=
  catalog.modules.find? fun module => module.name = name

def definitions (catalog : Catalog) : List Definition :=
  catalog.modules.flatMap (·.definitions)

def find? (catalog : Catalog) (name : String) : Option Definition :=
  -- The definition of a name; the last module that has the name wins.
  catalog.modules.foldl (fun found module => module.definition? name <|> found) none

def byName (catalog : Catalog) : List Definition :=
  catalog.definitions.foldl (fun found definition => putDefinition definition found) []

def unresolvedFields (catalog : Catalog) : List (Definition × Field) :=
  catalog.definitions.flatMap fun definition =>
    (definition.allFields.filter fun field => field.type.isNone).map fun field => (definition, field)

def renameModule (catalog : Catalog) (old new : String) : Catalog :=
  { catalog with modules := rename catalog.modules }
where
  rename : List Module → List Module
    | [] => []
    | module :: rest =>
      if module.name = old then { module with name := new } :: rest else module :: rename rest

def modify (catalog : Catalog) (name : String) (change : Definition → Definition) : Catalog :=
  { catalog with modules := (modifyFirst catalog.modules.reverse).reverse }
where
  modifyFirst : List Module → List Module
    | [] => []
    | module :: rest =>
      if module.defines name then
        let definitions := module.definitions.map fun definition =>
          if definition.name = name then change definition else definition
        { module with definitions := definitions } :: rest
      else module :: modifyFirst rest

def summary (catalog : Catalog) : String :=
  "Catalog(modules=" ++ Text.quotedList (catalog.modules.map (·.name)) ++
    ", warnings=" ++ Decimal.numeral catalog.warnings.length ++ ")"

end Catalog

end SchemaRecovery.Schema
