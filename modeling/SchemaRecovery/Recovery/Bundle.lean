import SchemaRecovery.Recovery.Cataloguing
import SchemaRecovery.Recovery.Loads
import SchemaRecovery.Recovery.Resolution
import SchemaRecovery.Recovery.Selection
import SchemaRecovery.Script.Excerpt
import SchemaRecovery.Script.Parse.Program

set_option autoImplicit false

namespace SchemaRecovery.Recovery

open Schema (Catalog Module)

structure NoModules where
  specProperty : String
deriving Repr, DecidableEq

def NoModules.message (noModules : NoModules) : String :=
  "No module assigns '" ++ noModules.specProperty
    ++ "'; the bundle does not follow the builder convention"

inductive Failure where
  | badPatch (fault : SourcePatch.Fault)
  | unparsed (source : String) (fault : Script.Fault)
  | noModules (why : NoModules)
  | noOwner (why : NoOwner)
deriving Repr, DecidableEq

def Failure.message? : Failure → Option String
  | badPatch _ => none
  | unparsed source fault => (fault.report? source).map (·.message)
  | noModules why => some why.message
  | noOwner why => some why.message

structure Logged (α : Type) where
  value : α
  log : List String

def select (settings : Settings) (statements : List Script.Node) :
    Except NoModules (List Candidate) :=
  match candidates settings statements with
  | [] => .error ⟨settings.specProperty⟩
  | selected => .ok selected

def Candidate.module (candidate : Candidate) : Module where
  name := moduleName candidate.statement candidate.index
  statement := candidate.statement

def load (settings : Settings) (source : String) : Logged (Except Failure Catalog) :=
  match settings.applyPatches source with
  | .error fault => ⟨.error (.badPatch fault), []⟩
  | .ok patched =>
    match Script.parse patched with
    | .error fault => ⟨.error (.unparsed patched fault), []⟩
    | .ok program =>
      let statements := program.children
      let log := [selectionLog settings statements]
      match select settings statements with
      | .error why => ⟨.error (.noModules why), log⟩
      | .ok selected => ⟨.ok { modules := selected.map (·.module) }, log⟩

inductive Stage where
  | crossReference
  | catalogue
  | resolve
deriving Repr, DecidableEq

namespace Stage

def run (settings : Settings) (catalog : Catalog) : Stage → Except NoOwner Catalog
  | crossReference => .ok (Recovery.crossReference catalog)
  | catalogue => .ok (Recovery.catalogue settings catalog)
  | resolve => Recovery.resolve settings catalog

def log (settings : Settings) (catalog : Catalog) : Stage → List String
  | crossReference => crossReferenceLog catalog
  | catalogue => catalogueLog settings catalog
  | resolve => resolveLog settings catalog

def all : List Stage := [crossReference, catalogue, resolve]

end Stage

def runStages (settings : Settings) : List Stage → Catalog → Logged (Except NoOwner Catalog)
  | [], catalog => ⟨.ok catalog, []⟩
  | stage :: stages, catalog =>
    let log := stage.log settings catalog
    match stage.run settings catalog with
    | .error why => ⟨.error why, log⟩
    | .ok next =>
      let rest := runStages settings stages next
      ⟨rest.value, log ++ rest.log⟩

def recover (settings : Settings) (source : String) : Logged (Except Failure Catalog) :=
  let loaded := load settings source
  match loaded.value with
  | .error failure => ⟨.error failure, loaded.log⟩
  | .ok catalog =>
    let staged := runStages settings Stage.all catalog
    ⟨staged.value.mapError .noOwner, loaded.log ++ staged.log⟩

end SchemaRecovery.Recovery
