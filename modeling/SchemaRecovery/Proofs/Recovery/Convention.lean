import SchemaRecovery.Recovery.Bundle
import Mathlib.Data.List.Forall2

set_option autoImplicit false

namespace SchemaRecovery.Recovery

open Script (Node)
open Schema (Definition EnumValue Field Member Oneof)

inductive PartSource where
  | scalar (token : String)
  | named (localName : String)
deriving Repr, DecidableEq

inductive TypeSource where
  | scalar (token : String)
  | message (localName : String)
  | enum (localName : String)
  | map (key value : PartSource)
deriving Repr, DecidableEq

structure FieldSource where
  name : String
  tag : Int
  type : TypeSource
  flags : List String
deriving Repr, DecidableEq

structure GroupSource where
  name : String
  members : List String
deriving Repr, DecidableEq

inductive BodySource where
  | message (fields : List FieldSource) (groups : List GroupSource)
  | enum (values : List EnumValue)
deriving Repr, DecidableEq

structure DefinitionSource where
  name : String
  localName : String
  body : BodySource
deriving Repr, DecidableEq

def PartSource.references : PartSource → List String
  | scalar _ => []
  | named localName => [localName]

namespace TypeSource

def references : TypeSource → List String
  | scalar _ => []
  | message localName | enum localName => [localName]
  | map key value => key.references ++ value.references

def token : TypeSource → String
  | scalar token => token
  | message _ => "MESSAGE"
  | enum _ => "ENUM"
  | map _ _ => "MAP"

def Plain : TypeSource → Prop
  | scalar token => Text.lower token ∉ ["message", "enum", "map"]
  | _ => True

instance (type : TypeSource) : Decidable type.Plain := by
  cases type <;> unfold Plain <;> infer_instance

end TypeSource

structure SeparateNames (settings : Settings) : Prop where
  tables : settings.typesTable ≠ settings.flagsTable
  oneofs : settings.constraintStart.toList <+: settings.oneofKey.toList

structure ValidMessage (settings : Settings) (localNames : List String) (fields : List FieldSource)
    (groups : List GroupSource) : Prop where
  distinct : (fields.map (·.name)).Nodup
  unreserved : ∀ field ∈ fields, ¬ settings.constraintStart.toList <+: field.name.toList
  plain : ∀ field ∈ fields, field.type.Plain
  defined : ∀ field ∈ fields, ∀ localName ∈ field.type.references, localName ∈ localNames
  filled : ∀ group ∈ groups, group.members ≠ []
  declared : ∀ group ∈ groups, ∀ name ∈ group.members, name ∈ fields.map (·.name)
  apart : (groups.flatMap (·.members)).Nodup

def BodySource.Valid (settings : Settings) (localNames : List String) : BodySource → Prop
  | message fields groups => ValidMessage settings localNames fields groups
  | enum values => ∃ first rest, values = first :: rest ∧ first.name ≠ ""

structure ValidSchema (settings : Settings) (schema : List DefinitionSource) : Prop where
  localNames : (schema.map (·.localName)).Nodup
  names : (schema.map (·.name)).Nodup
  bodies : ∀ source ∈ schema, source.body.Valid settings (schema.map (·.localName))

section Writing
variable (settings : Settings)

def WritesToken (table token : String) (node : Node) : Prop := tableToken? node = some ⟨table, token⟩

inductive WritesPart : PartSource → Node → Prop where
  | scalar (token : String) (node : Node) (written : WritesToken settings.typesTable token node) :
      WritesPart (.scalar token) node
  | named (localName : String) : WritesPart (.named localName) (.identifier localName)

inductive WritesReference : TypeSource → Option Node → Prop where
  | scalar (token : String) (reference : Option Node) : WritesReference (.scalar token) reference
  | message (localName : String) : WritesReference (.message localName) (some (.identifier localName))
  | enum (localName : String) : WritesReference (.enum localName) (some (.identifier localName))
  | map (first second : PartSource) (key value : Node) (writtenKey : WritesPart settings first key)
      (writtenValue : WritesPart settings second value) :
      WritesReference (.map first second) (some (.array [some key, some value]))

def chain (first : Node) (rest : List Node) : Node := rest.foldl (.binary "|") first

def WritesType (field : FieldSource) (type : Node) : Prop :=
  ∃ first rest, type = chain first rest ∧ WritesToken settings.typesTable field.type.token first ∧
    List.Forall₂ (WritesToken settings.flagsTable) field.flags rest

inductive WritesEntry (field : FieldSource) : Node → Prop where
  | short (tag type : Node) (tagged : tag.integer? = some field.tag) (typed : WritesType settings field type)
      (referred : WritesReference settings field.type none) : WritesEntry field (.array [some tag, some type])
  | long (tag type : Node) (reference : Option Node) (tagged : tag.integer? = some field.tag)
      (typed : WritesType settings field type) (referred : WritesReference settings field.type reference) :
      WritesEntry field (.array [some tag, some type, reference])

def Keyed (key : String) (value property : Node) : Prop :=
  property.propertyKey? = some key ∧ property.propertyValue? = some value

def WritesField (field : FieldSource) (property : Node) : Prop :=
  ∃ value, Keyed field.name value property ∧ WritesEntry settings field value

def WritesGroup (group : GroupSource) (property : Node) : Prop :=
  ∃ elements : List Node, Keyed group.name (.array (elements.map some)) property ∧
    List.Forall₂ (fun name element => element.stringValue? = some name) group.members elements

inductive WritesTable (fields : List FieldSource) (groups : List GroupSource) : List Node → Prop where
  -- The oneof property may stand anywhere among the fields, and be left out where there are no
  -- groups.
  | plain (entries : List Node) (written : List.Forall₂ (WritesField settings) fields entries)
      (ungrouped : groups = []) : WritesTable fields groups entries
  | grouped (before after table : List Node) (oneofs : Node)
      (written : List.Forall₂ (WritesField settings) fields (before ++ after))
      (keyed : Keyed settings.oneofKey (.object table) oneofs)
      (listed : List.Forall₂ WritesGroup groups table) : WritesTable fields groups (before ++ oneofs :: after)

def WritesValue (value : EnumValue) (property : Node) : Prop :=
  ∃ node, Keyed value.name node property ∧ node.integer? = some value.id

inductive Builds (localName : String) (arguments : List Node) : Node → Prop where
  | declared (builder : Node) :
      Builds localName arguments (.declarator (.identifier localName) (some (.call builder arguments)))
  | assigned (operator : String) (builder : Node) :
      Builds localName arguments (.assignment operator (.identifier localName) (.call builder arguments))

def Exports (name : String) (value node : Node) : Prop :=
  ∃ target property, assignment? node = some ⟨target, property, value⟩ ∧
    property ∉ settings.reservedProperties ∧ Schema.Name.stripSuffix settings.specSuffix property = name

structure Written (schema : List DefinitionSource) (statement : Node) : Prop where
  -- The statement holds what writes the schema, in whatever order and depth. Nothing else in it
  -- exports or builds one of its names, and all its tables belong to the schema. It may hold
  -- anything besides that, such as loads, defaults, names of builders, or exports of other
  -- names.
  exports : ∀ source ∈ schema, ∃ node ∈ Script.walk statement,
    Exports settings source.name (.identifier source.localName) node
  noOtherExport : ∀ source ∈ schema, ∀ node ∈ Script.walk statement, ∀ name value,
    Exports settings name value node → (name = source.name ↔ value = .identifier source.localName)
  tables : ∀ source ∈ schema, ∀ fields groups, source.body = .message fields groups →
    ∃ node ∈ Script.walk statement, ∃ properties,
      assignment? node = some ⟨.identifier source.localName, settings.specProperty, .object properties⟩
  noOtherTable : ∀ node ∈ Script.walk statement, ∀ target properties,
    assignment? node = some ⟨target, settings.specProperty, .object properties⟩ →
    ∃ source ∈ schema, ∃ fields groups, target = .identifier source.localName ∧
      source.body = .message fields groups ∧ WritesTable settings fields groups properties
  builders : ∀ source ∈ schema, ∀ values, source.body = .enum values →
    ∃ node ∈ Script.walk statement, ∃ properties, Builds source.localName [.object properties] node ∧
      List.Forall₂ WritesValue values properties
  noOtherBuilder : ∀ source ∈ schema, ∀ node ∈ Script.walk statement, ∀ arguments,
    Builds source.localName arguments node → ∀ properties, .object properties ∈ arguments →
    ∀ values, values ≠ [] → List.Forall₂ WritesValue values properties → source.body = .enum values

end Writing

section Recovered
variable (schema : List DefinitionSource)

def nameOf (localName : String) : String :=
  ((schema.find? fun source => source.localName = localName).map (·.name)).getD ""

def PartSource.recovered : PartSource → String
  | scalar token => Text.lower token
  | named localName => nameOf schema localName

namespace TypeSource

def recovered : TypeSource → String
  | scalar token => Text.lower token
  | message localName | enum localName => nameOf schema localName
  | map key value => "map<" ++ key.recovered schema ++ ", " ++ value.recovered schema ++ ">"

def mapTypes : TypeSource → Option (String × String)
  | map key value => some (key.recovered schema, value.recovered schema)
  | _ => none

end TypeSource

def FieldSource.recovered (field : FieldSource) : Field where
  name := field.name
  id := some field.tag
  type := some (field.type.recovered schema)
  flags := field.flags.map Text.lower
  mapTypes := field.type.mapTypes schema

def fieldNamed (fields : List Field) (name : String) : Option Field := fields.find? fun field => field.name = name

def GroupSource.recovered (fields : List Field) (group : GroupSource) : Oneof where
  name := group.name
  members := group.members.filterMap (fieldNamed fields)

def groupedMembers (fields : List Field) (groups : List GroupSource) : List Member :=
  (fields.filter fun field => field.name ∉ groups.flatMap (·.members)).map .field
    ++ groups.map fun group => .oneof (group.recovered fields)

namespace BodySource

def members? : BodySource → Option (List Member)
  | message fields groups => some (groupedMembers (fields.map (·.recovered schema)) groups)
  | enum _ => none

def values? : BodySource → Option (List EnumValue)
  | message _ _ => none
  | enum values => some values

end BodySource

namespace DefinitionSource

def catalogued (moduleName : String) (source : DefinitionSource) : Definition where
  name := source.name
  nestingPath := Schema.Name.nestingPath source.name
  localName := some source.localName
  enumValues := source.body.values?
  module := some moduleName

def recovered (moduleName : String) (source : DefinitionSource) : Definition :=
  { source.catalogued moduleName with members := source.body.members? schema }

end DefinitionSource

end Recovered

end SchemaRecovery.Recovery
