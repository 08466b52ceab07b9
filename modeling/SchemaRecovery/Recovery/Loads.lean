import SchemaRecovery.Recovery.Shape
import SchemaRecovery.Schema.Catalog
import SchemaRecovery.Script.Walk

set_option autoImplicit false

namespace SchemaRecovery.Recovery

open Script (Node)
open Schema (Load Catalog Module)

def loadFrom? (target value : Node) : Option Load := do
  let application ← application? value
  let name ← application.argument.stringValue?
  let localName ← target.name?
  some ⟨localName, name⟩

def load? : Node → Option Load
  | .assignment _ left right => loadFrom? left right
  | .declarator name (some value) => loadFrom? name value
  | _ => none

def loads (statement : Node) : List Load := (Script.walk statement).filterMap load?

def recordLoads (module : Module) : Module := { module with loads := loads module.statement }

def crossReference (catalog : Catalog) : Catalog :=
  { catalog with modules := catalog.modules.map recordLoads }

def crossReferenceLog (catalog : Catalog) : List String :=
  catalog.modules.map fun module =>
    let shown := (loads module.statement).map fun load => load.localName ++ " -> " ++ load.target
    "[XREF] " ++ module.name ++ ": "
      ++ (if shown.isEmpty then "none" else String.intercalate ", " shown)

end SchemaRecovery.Recovery
