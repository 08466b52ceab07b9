import SchemaRecovery.Recovery.Cataloguing
import SchemaRecovery.Text.LowerCase

set_option autoImplicit false

namespace SchemaRecovery.Recovery

open Script (Node)
open Schema (Catalog Definition EnumValue Field Member Module Oneof Unresolved Warning)

inductive Notice where
  | warning (warning : Warning)
  | constraintIgnored (definition key : String)
  | resolved (definition : String) (fields : Nat)

namespace Notice

def warning? : Notice → Option Warning
  | warning found => some found
  | _ => none

def log : Notice → String
  | warning found => "[RESOLVE] warning: " ++ found.text
  | constraintIgnored definition key =>
    "[RESOLVE]   " ++ definition ++ ": ignoring constraint " ++ key
  | resolved definition fields =>
    "[RESOLVE]   " ++ definition ++ ": " ++ Decimal.numeral fields ++ " fields"

end Notice

structure Scope where
  settings : Settings
  modules : List Module
  module : Module

def Scope.module? (scope : Scope) (name : String) : Option Module :=
  scope.modules.reverse.find? fun module => module.name = name

inductive Rule where
  | scalar
  | map
  | localAlias
  | sameModule
  | loadedModule
  | namingConvention
deriving Repr, DecidableEq

def Rule.text : Rule → String
  | scalar => "scalar"
  | map => "map"
  | localAlias => "local_alias"
  | sameModule => "local"
  | loadedModule => "cross_reference"
  | namingConvention => "naming_convention"

inductive Resolution where
  | found (name : String) (rule : Rule)
  | failed (why : Unresolved)
deriving Repr, DecidableEq

def Resolution.summary : Resolution → String
  | found name rule =>
    "ResolvedType(name=" ++ Text.quoted name ++ ", via=" ++ Text.quoted rule.text ++ ")"
  | failed why => why.summary

def loaderName? : Node → Option String
  -- The local name of the module object in `name.X`, `(name = load(...)).X` or `name(...).X`.
  | .identifier name => some name
  | .assignment _ left _ => left.name?
  | .call callee _ => callee.name?
  | _ => none

def contains (part text : List Char) : Bool :=
  match text with
  | [] => part.isEmpty
  | _ :: rest => part.isPrefixOf text || contains part rest

def followsConvention (settings : Settings) (enumField : Bool) (property : String) : Bool :=
  (enumField && contains "Type".toList property.toList)
    || contains settings.specSuffix.toList property.toList

def Scope.loadedDefines (scope : Scope) (localName key : String) : Bool :=
  match scope.module.loadOf? localName with
  | none => false
  | some load =>
    load.target ≠ scope.settings.externalEnumModule
      && (scope.module? load.target).any (·.defines key)

def resolveMember (scope : Scope) (target : Node) (property : String) (enumField : Bool)
    (whole : String) : Resolution :=
  -- The type that a property of a module object names: a definition of the module itself, then
  -- one of the loaded module, then anything that is named by convention.
  let key := Schema.Name.stripSuffix scope.settings.specSuffix property
  if scope.module.defines key then .found key .sameModule
  else if (loaderName? target).any fun localName => scope.loadedDefines localName key then
    .found key .loadedModule
  else if followsConvention scope.settings enumField property then .found key .namingConvention
  else .failed ⟨"unresolved cross-module reference", some whole⟩

def resolveReference (scope : Scope) (reference : Option Node) (enumField : Bool) : Resolution :=
  match reference with
  | none => .failed ⟨"missing reference", none⟩
  | some (.identifier name) =>
    match scope.module.ofLocalName? name with
    | some definition => .found definition.name .localAlias
    | none => .failed ⟨"unknown alias", some name⟩
  | some (.member computed target key) =>
    let whole := (Node.member computed target key).text
    match Node.memberName computed key with
    | some property => resolveMember scope target property enumField whole
    | none => .failed ⟨"unrecognized reference shape", some whole⟩
  | some node => .failed ⟨"unrecognized reference shape", some node.text⟩

def resolveMapType (scope : Scope) (element : Option Node) : Except Unresolved String :=
  match element.bind tableToken? with
  | some token =>
    if token.table = scope.settings.typesTable then .ok (Text.lower token.name)
    else ofReference
  | none => ofReference
where
  ofReference : Except Unresolved String :=
    match resolveReference scope element false with
    | .found name _ => .ok name
    | .failed why => .error why

def resolveMap (scope : Scope) (reference : Option Node) : Except Unresolved (String × String) :=
  match reference with
  | some (.array [key, value]) => do
    let key ← resolveMapType scope key
    let value ← resolveMapType scope value
    .ok (key, value)
  | _ => .error ⟨"map without [key, value] pair", reference.map (·.text)⟩

def tokensOf (table : String) (leaves : List Node) : List String :=
  ((leaves.filterMap tableToken?).filter fun token => token.table = table).map
    fun token => Text.lower token.name

def typeLeaves (type : Option Node) : List Node := type.toList.flatMap orLeaves

def resolveType (scope : Scope) (entry : FieldEntry) :
    Except Unresolved (String × Option (String × String)) :=
  let ofResolution (resolution : Resolution) :
      Except Unresolved (String × Option (String × String)) :=
    match resolution with
    | .found name _ => .ok (name, none)
    | .failed why => .error why
  match (tokensOf scope.settings.typesTable (typeLeaves entry.type)).getLast? with
  | none => .error ⟨"no type token", some (Node.textOr entry.type)⟩
  | some "map" => do
    let (key, value) ← resolveMap scope entry.reference
    .ok ("map<" ++ key ++ ", " ++ value ++ ">", some (key, value))
  | some "message" => ofResolution (resolveReference scope entry.reference false)
  | some "enum" => ofResolution (resolveReference scope entry.reference true)
  | some scalar => .ok (scalar, none)

def flagsOf (settings : Settings) (leaves : List Node) : List String :=
  if settings.flagsTable = settings.typesTable then [] else tokensOf settings.flagsTable leaves

def resolveField (scope : Scope) (name : String) (entry : FieldEntry) : Field :=
  let base : Field := {
    name := name
    id := some entry.tag
    flags := flagsOf scope.settings (typeLeaves entry.type) }
  match resolveType scope entry with
  | .ok (type, mapTypes) => { base with type := some type, mapTypes := mapTypes }
  | .error why => { base with unresolved := some why }

def Scope.warn (scope : Scope) (kind message definition : String) (field : Option String) : Notice :=
  .warning ⟨kind, message, some scope.module.name, some definition, field⟩

def fieldNotices (scope : Scope) (definition : String) (field : Field) : List Notice :=
  field.unresolved.toList.map fun why =>
    scope.warn "unresolved_reference"
      ("Unable to resolve type of field (" ++ why.reason ++ ": " ++ why.expression.getD "None" ++ ")")
      definition (some field.name)

structure KeyedProperty where
  key : String
  value : Node

def keyedProperty? (property : Node) : Option KeyedProperty := do
  some ⟨← property.propertyKey?, ← property.propertyValue?⟩

def isConstraint (settings : Settings) (property : KeyedProperty) : Bool :=
  settings.constraintStart.toList.isPrefixOf property.key.toList

def keylessNotices (scope : Scope) (definition : String) (property : Node) : List Notice :=
  match keyedProperty? property with
  | some _ => []
  | none =>
    [scope.warn "unrecognized_shape"
      ("Unsupported property in spec table: " ++ property.text) definition none]

def resolveEntry (scope : Scope) (definition : String) (property : KeyedProperty) :
    Option Field × List Notice :=
  match fieldEntry property.value with
  | .error misshapen =>
    (none, [scope.warn "unrecognized_shape" ("Skipped member: " ++ misshapen.message) definition
      (some property.key)])
  | .ok entry =>
    let field := resolveField scope property.key entry
    (some field, fieldNotices scope definition field)

def takeField (name : String) : List Member → Option (Field × List Member)
  | [] => none
  | .field field :: members =>
    if field.name = name then some (field, members)
    else (takeField name members).map fun (found, rest) => (found, .field field :: rest)
  | member :: members =>
    (takeField name members).map fun (found, rest) => (found, member :: rest)

structure Grouping where
  members : List Member
  taken : List Field
  notices : List Notice

def groupElement (scope : Scope) (definition group : String) (grouping : Grouping)
    (element : Option Node) : Grouping :=
  let name? := element.bind (·.stringValue?)
  match name?.bind fun name => takeField name grouping.members with
  | some (field, members) =>
    { grouping with members := members, taken := grouping.taken ++ [field] }
  | none =>
    let shown := match name? with
      | none | some "" => Node.textOr element
      | some name => name
    { grouping with
      notices := grouping.notices ++ [scope.warn "oneof_member_missing"
        ("Oneof '" ++ group ++ "' names a member that is not declared") definition (some shown)] }

structure Groups where
  members : List Member
  groups : List Oneof
  notices : List Notice

def groupProperty (scope : Scope) (definition : String) (groups : Groups) (property : Node) :
    Groups :=
  match keyedProperty? property with
  | some ⟨name, .array elements⟩ =>
    let grouping := elements.foldl (groupElement scope definition name) ⟨groups.members, [], []⟩
    let notices := groups.notices ++ grouping.notices
    if grouping.taken.isEmpty then
      { groups with
        members := grouping.members
        notices := notices ++ [scope.warn "oneof_member_missing"
          ("Oneof '" ++ name ++ "' has no declared members and was dropped") definition none] }
    else
      ⟨grouping.members, groups.groups ++ [⟨name, grouping.taken⟩], notices⟩
  | _ =>
    { groups with
      notices := groups.notices ++ [scope.warn "unrecognized_shape"
        ("Unsupported oneof declaration: " ++ property.text) definition none] }

def groupOneofs (scope : Scope) (definition : String) (table : List Node) (members : List Member) :
    List Member × List Notice :=
  let groups := table.foldl (groupProperty scope definition) ⟨members, [], []⟩
  (groups.members ++ groups.groups.map .oneof, groups.notices)

def applyConstraint (scope : Scope) (definition : String) (state : List Member × List Notice)
    (constraint : KeyedProperty) : List Member × List Notice :=
  match constraint.value with
  | .object table =>
    if constraint.key = scope.settings.oneofKey then
      let (members, notices) := groupOneofs scope definition table state.1
      (members, state.2 ++ notices)
    else
      (state.1, state.2 ++ [.constraintIgnored definition constraint.key])
  | _ => (state.1, state.2 ++ [.constraintIgnored definition constraint.key])

def resolveMembers (scope : Scope) (definition : String) (properties : List Node) :
    List Member × List Notice :=
  let (constraints, entries) :=
    (properties.filterMap keyedProperty?).partition (isConstraint scope.settings)
  let resolved := entries.map (resolveEntry scope definition)
  let members := resolved.filterMap fun (field?, _) => field?.map Member.field
  let notices := properties.flatMap (keylessNotices scope definition)
    ++ resolved.flatMap fun (_, notices) => notices
  constraints.foldl (applyConstraint scope definition) (members, notices)

def resolveTable (scope : Scope) (definition : Definition) (properties : List Node) :
    Definition × List Notice :=
  -- What a table makes of its definition. A table of integers is an enum body, which counts only
  -- where no values are known yet.
  match enumValues? (.object properties) with
  | some values =>
    (if definition.hasValues then definition else { definition with enumValues := some values }, [])
  | none =>
    let (members, notices) := resolveMembers scope definition.name properties
    let resolved := { definition with members := some members }
    (resolved, notices ++ [.resolved definition.name resolved.allFields.length])

structure SpecTable where
  target : Node
  properties : List Node

def specTable? (settings : Settings) (node : Node) : Option SpecTable :=
  match assignment? node with
  | some ⟨target, property, .object properties⟩ =>
    if property = settings.specProperty then some ⟨target, properties⟩ else none
  | _ => none

def specTables (settings : Settings) (statement : Node) : List SpecTable :=
  (Script.walk statement).filterMap (specTable? settings)

def SpecTable.owner? (table : SpecTable) (module : Module) : Option Definition := do
  module.ofLocalName? (← table.target.name?)

structure Progress where
  module : Module
  matched : Nat
  notices : List Notice

def resolveStep (settings : Settings) (modules : List Module) (progress : Progress)
    (table : SpecTable) : Progress :=
  match table.owner? progress.module with
  | none =>
    { progress with
      notices := progress.notices ++ [.warning {
        kind := "unknown_spec_target"
        message := "No identifier is bound to alias '" ++ table.target.text ++ "'"
        module := some progress.module.name }] }
  | some definition =>
    let scope : Scope := ⟨settings, modules, progress.module⟩
    let (resolved, notices) := resolveTable scope definition table.properties
    let definitions := Schema.putDefinition resolved progress.module.definitions
    { module := { progress.module with definitions := definitions }
      matched := progress.matched + 1
      notices := progress.notices ++ notices }

def resolveModule (settings : Settings) (modules : List Module) (module : Module) : Progress :=
  (specTables settings module.statement).foldl (resolveStep settings modules) ⟨module, 0, []⟩

def ownersOf (modules : List Module) (name : String) : List String :=
  (modules.filter fun module => module.definitions.any fun definition =>
    definition.name = name && !definition.isShell).map (·.name)

def collisions (modules : List Module) : List Warning :=
  let defined := ((modules.flatMap (·.definitions)).filter fun definition => !definition.isShell)
  (defined.map (·.name)).eraseDups.filterMap fun name =>
    let owners := ownersOf modules name
    if owners.length > 1 then
      some {
        kind := "name_collision"
        message := "'" ++ name ++ "' is defined in modules " ++ String.intercalate ", " owners
          ++ "; the last definition is used"
        module := owners.getLast?
        definition := some name }
    else none

structure NoOwner where
  tables : Nat
  specProperty : String
deriving Repr, DecidableEq

def NoOwner.message (noOwner : NoOwner) : String :=
  "None of the " ++ Decimal.numeral noOwner.tables ++ " '" ++ noOwner.specProperty
    ++ "' tables belongs to a known identifier; the bundle layout has changed"

structure Resolved where
  tables : Nat
  steps : List Progress

namespace Resolved

def ofCatalog (settings : Settings) (catalog : Catalog) : Resolved where
  tables := catalog.modules.foldl (fun count module => count + (specTables settings module.statement).length) 0
  steps := catalog.modules.map (resolveModule settings catalog.modules)

def matched (resolved : Resolved) : Nat := resolved.steps.foldl (fun count step => count + step.matched) 0

def modules (resolved : Resolved) : List Module := resolved.steps.map (·.module)

def notices (resolved : Resolved) : List Notice := resolved.steps.flatMap (·.notices)

def fails (resolved : Resolved) : Bool := resolved.tables ≠ 0 && resolved.matched = 0

def warnings (resolved : Resolved) : List Warning :=
  resolved.notices.filterMap (·.warning?) ++ collisions resolved.modules

def log (resolved : Resolved) : List String :=
  resolved.notices.map (·.log)
    ++ if resolved.fails then [] else
      ["[RESOLVE] " ++ Decimal.numeral resolved.matched ++ "/" ++ Decimal.numeral resolved.tables
        ++ " spec tables resolved, " ++ Decimal.numeral resolved.warnings.length ++ " warnings"]

end Resolved

def resolve (settings : Settings) (catalog : Catalog) : Except NoOwner Catalog :=
  let resolved := Resolved.ofCatalog settings catalog
  if resolved.fails then .error ⟨resolved.tables, settings.specProperty⟩
  else .ok (Catalog.withWarnings { catalog with modules := resolved.modules } resolved.warnings)

def resolveLog (settings : Settings) (catalog : Catalog) : List String :=
  (Resolved.ofCatalog settings catalog).log

end SchemaRecovery.Recovery
