import SchemaRecovery.Recovery.Shape
import SchemaRecovery.Schema.Catalog
import SchemaRecovery.Schema.Name
import SchemaRecovery.Script.Walk
import SchemaRecovery.Settings

set_option autoImplicit false

namespace SchemaRecovery.Recovery

open Script (Node Step Trail)
open Schema (Catalog Definition EnumValue Module Nesting)

def namedAssignments (settings : Settings) (statement : Node) : List Assignment :=
  ((Script.walk statement).filterMap assignment?).filter fun assignment =>
    !settings.reservedProperties.contains assignment.property

def bindingName? : Node → Option String
  | .assignment _ left _ => left.name?
  | .declarator name _ => name.name?
  | _ => none

def isCall : Node → Bool
  | .call .. => true
  | _ => false

def enumOwner? (settings : Settings) (values : List EnumValue) (index : Nat) (father : Node)
    (above : Trail) : Option String :=
  -- The local name of an enum body: that of the builder whose spec property it is assigned to,
  -- or that bound to the builder call it is an argument of. `index` is the place of the body
  -- among the parts of the node around it.
  match assignment? father with
  | some assignment =>
    if assignment.property = settings.specProperty then assignment.target.name? else none
  | none =>
    let named := (values.head?.map (·.name)).getD "" ≠ ""
    if isCall father ∧ index ≠ 0 ∧ named then above.head?.bind fun step => bindingName? step.node
    else none

def enumBinding? (settings : Settings) : Trail → Option (String × List EnumValue)
  | ⟨index, body⟩ :: ⟨_, father⟩ :: above => do
    let values ← enumValues? body
    let owner ← enumOwner? settings values index father above
    some (owner, values)
  | _ => none

def enumTables (settings : Settings) (statement : Node) : List (String × List EnumValue) :=
  ((Script.trails statement).filterMap (enumBinding? settings)).foldl
    (fun tables binding => Schema.putPair binding.1 binding.2 tables) []

def directEnumValues? (value : Node) : Option (List EnumValue) := do
  let application ← application? value
  enumValues? application.argument

def exportKey (settings : Settings) (assignment : Assignment) : String :=
  Schema.Name.stripSuffix settings.specSuffix assignment.property

def shells (moduleName : String) (keys : List String) : List Definition :=
  keys.reverse.eraseDups.map fun key =>
    { name := key, nestingPath := Schema.Name.nestingPath key, module := some moduleName }

def enumValuesOf (tables : List (String × List EnumValue)) (value : Node) :
    Option (List EnumValue) :=
  match value.name? with
  | some localName => tables.lookup localName
  | none => directEnumValues? value

def linkDefinition (tables : List (String × List EnumValue)) (value : Node)
    (definition : Definition) : Definition :=
  { definition with localName := value.name?, enumValues := enumValuesOf tables value }

def link (settings : Settings) (tables : List (String × List EnumValue))
    (definitions : List Definition) (assignment : Assignment) : List Definition :=
  -- Binds a definition to the right-hand side of an assignment; a later one replaces an earlier
  -- one.
  let key := exportKey settings assignment
  definitions.map fun definition =>
    if definition.name = key then linkDefinition tables assignment.value definition else definition

def catalogModule (settings : Settings) (module : Module) : Module :=
  let assignments := namedAssignments settings module.statement
  let tables := enumTables settings module.statement
  let created := shells module.name (assignments.map (exportKey settings))
  { module with definitions := assignments.foldl (link settings tables) created }

def registerModule (settings : Settings) (nesting : Nesting) (module : Module) : Nesting :=
  ((namedAssignments settings module.statement).map (exportKey settings)).foldl
    (fun nesting key => nesting.register key (Schema.Name.nestingPath key)) nesting

def catalogue (settings : Settings) (catalog : Catalog) : Catalog :=
  { catalog with
    modules := catalog.modules.map (catalogModule settings)
    nesting := catalog.modules.foldl (registerModule settings) catalog.nesting }

def enumLog (settings : Settings) (tables : List (String × List EnumValue))
    (assignment : Assignment) : Option String :=
  match enumValuesOf tables assignment.value with
  | none | some [] => none
  | some (_ :: _) =>
    some ("[CATALOG]   enum " ++ exportKey settings assignment ++ " <- "
      ++ assignment.value.name?.getD "inline literal")

def moduleLog (settings : Settings) (module : Module) : List String :=
  let tables := enumTables settings module.statement
  let definitions := (catalogModule settings module).definitions
  (namedAssignments settings module.statement).filterMap (enumLog settings tables)
    ++ ["[CATALOG] " ++ module.name ++ ": " ++ Decimal.numeral definitions.length
      ++ " identifiers, " ++ Decimal.numeral (definitions.countP (·.hasValues))
      ++ " with enum values"]

def catalogueLog (settings : Settings) (catalog : Catalog) : List String :=
  catalog.modules.flatMap (moduleLog settings)

end SchemaRecovery.Recovery
