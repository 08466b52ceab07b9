import SchemaRecovery.Proto.Check
import SchemaRecovery.Recovery.Bundle
import SchemaRecovery.Schema.Listing

set_option autoImplicit false

namespace SchemaRecovery

open Recovery (Failure Logged)
open Schema (Catalog Warning)

structure Extraction where
  document : String
  catalog : Catalog
  warnings : List Warning
  entities : Nat

namespace Extraction

def checkWarnings (document : String) : List Warning :=
  (Proto.check document).map fun issue => {
    kind := "proto_check"
    message := issue.kind ++ ": " ++ issue.text }

def ofCatalog (settings : Settings) (edition : Proto.Edition) (check : Bool) (catalog : Catalog) :
    Logged Extraction :=
  let document := Proto.Document.ofCatalog settings edition catalog
  let checked := if check then checkWarnings document.text else []
  { value := {
      document := document.text
      catalog := catalog
      warnings := catalog.warnings ++ document.warnings ++ checked
      entities := document.entities }
    log := document.log }

def ofSource (settings : Settings) (edition : Proto.Edition) (check : Bool) (source : String) :
    Logged (Except Failure Extraction) :=
  let recovered := Recovery.recover settings source
  match recovered.value with
  | .error failure => ⟨.error failure, recovered.log⟩
  | .ok catalog =>
    let extraction := ofCatalog settings edition check catalog
    ⟨.ok extraction.value, recovered.log ++ extraction.log⟩

end Extraction

end SchemaRecovery
