import SchemaRecovery.CommandLine.Options
import SchemaRecovery.Extractor
import SchemaRecovery.Schema.Dump

set_option autoImplicit false

namespace SchemaRecovery.CommandLine

open Schema (Catalog)

structure Invocation where
  arguments : List String
  environment : Settings.Environment
  now : String
deriving Repr

inductive Uncaught where
  | badInteger (bad : Settings.BadInteger)
  | unreported (why : Recovery.Failure)
  | noOutput
  | path (fault : PathFault)
  | unencodable (fault : Text.Utf8.Unencodable)
deriving Repr, DecidableEq

def Uncaught.message : Uncaught → String
  | badInteger bad => bad.message
  | unreported (.badPatch _) => "a replacement is malformed"
  | unreported _ => "the parse stopped without a verdict"
  | noOutput => "no path to write to"
  | path .missing => "no such file or directory"
  | path .exists => "file exists"
  | path .isDirectory => "is a directory"
  | path .notDirectory => "not a directory"
  | unencodable fault => fault.message

structure Outcome where
  exitCode : Nat := 0
  stdout : List String := []
  stderr : List String := []
  files : FileSystem
  uncaught : Option Uncaught := none
deriving Repr

namespace Outcome

def fails (files : FileSystem) (exitCode : Nat) (stdout stderr : List String) : Outcome where
  exitCode := exitCode
  stdout := stdout
  stderr := stderr
  files := files

def breaks (files : FileSystem) (stdout : List String) (uncaught : Uncaught) : Outcome where
  exitCode := 1
  stdout := stdout
  files := files
  uncaught := some uncaught

end Outcome

def isOn (value : String) : Bool :=
  ["1", "true", "yes", "on"].contains (Text.lower (String.ofList (Text.trim value.toList)))

structure Plan where
  extractor : Extractor
  hasOutput : Bool
  dump : Option String

def planOf (environment : Settings.Environment) (options : Options) (input : String)
    (settings : Settings) : Plan :=
  let default : Extractor := { input := input }
  let override (name : String) (given : Option Value) (default : String) : Value :=
    ((environment.lookup name).map .text).getD (given.getD (.text default))
  let output := override "PW_OUTPUT_FILE" options.output default.output
  { extractor := { default with
      output := output.shown
      version := (override "PW_VERSION" options.version default.version).shown
      settings := settings
      verbose := ((environment.lookup "PW_VERBOSE").map isOn).getD options.verbose
      check := !options.noCheck }
    hasOutput := output ≠ .nothing
    dump := options.dumpCatalog.bind Value.present? }

def dumpCatalog (files : FileSystem) (path : String) (catalog : Catalog) :
    Except PathFault FileSystem :=
  files.writeWithin (Path.ofText path) (Text.Utf8.encode catalog.data.document)

def finish (plan : Plan) (log : List String) (result : Extraction) (written : Written) :
    Outcome :=
  let listing := if plan.extractor.verbose then [result.catalog.listing] else []
  let stdout := log ++ listing
  let report (files : FileSystem) (dumped : List String) : Outcome := {
    stdout := stdout ++ dumped ++ ["Wrote " ++ Decimal.numeral result.entities
      ++ " entities (version " ++ plan.extractor.version ++ ") to " ++ written.location.text]
    stderr := result.warnings.map fun warning => "Warning: " ++ warning.text
    files := files }
  match plan.dump with
  | none => report written.files []
  | some path =>
    match dumpCatalog written.files path result.catalog with
    | .ok files => report files ["Catalog written to " ++ path]
    | .error fault => Outcome.breaks written.files stdout (.path fault)

def extractAndWrite (plan : Plan) (now : String) (files : FileSystem) : Outcome :=
  let (extractor, extracted) := plan.extractor.extract now
  match extracted.value with
  | .error .notLoaded => Outcome.fails files 1 extracted.log ["Error: " ++ notLoadedMessage]
  | .error (.failure why) =>
    match why.message? with
    | some message => Outcome.fails files 1 extracted.log ["Error: " ++ message]
    | none => Outcome.breaks files extracted.log (.unreported why)
  | .ok result =>
    if plan.hasOutput then
      match extractor.write files with
      | .ok written => finish plan extracted.log result written
      | .error .notExtracted => Outcome.fails files 1 extracted.log ["Error: " ++ notExtractedMessage]
      | .error (.path fault) => Outcome.breaks files extracted.log (.path fault)
      | .error (.unencodable fault left) => Outcome.breaks left.files extracted.log (.unencodable fault)
    else
      Outcome.breaks files extracted.log .noOutput

def noInputMessage : String := "Error: no input bundle given (use --input or PW_INPUT_FILE)."

def inputOf (environment : Settings.Environment) (options : Options) : Option String :=
  (((environment.lookup "PW_INPUT_FILE").map .text).or options.input).bind Value.present?

def runOptions (invocation : Invocation) (options : Options) (files : FileSystem) : Outcome :=
  match inputOf invocation.environment options with
  | none => Outcome.fails files 1 [] [noInputMessage]
  | some input =>
    match Settings.ofEnvironment invocation.environment with
    | .error bad => Outcome.breaks files [] (.badInteger bad)
    | .ok settings =>
      let plan := planOf invocation.environment options input settings
      match plan.extractor.load files with
      | (_, .error fault) => Outcome.fails files 1 [] [fault.message]
      | (extractor, .ok ()) =>
        extractAndWrite { plan with extractor := extractor } invocation.now files

def run (invocation : Invocation) (files : FileSystem) : Outcome :=
  match Options.ofArguments invocation.arguments with
  | .error .help => { stdout := help, files := files }
  | .error (.fault fault) => Outcome.fails files 2 [] (usageError fault)
  | .ok options => runOptions invocation options files

def touchedPaths (invocation : Invocation) : List String :=
  match Options.ofArguments invocation.arguments with
  | .error _ => []
  | .ok options =>
    match inputOf invocation.environment options with
    | none => []
    | some input =>
      let plan := planOf invocation.environment options input {}
      input :: (if plan.hasOutput then [plan.extractor.output] else []) ++ plan.dump.toList

end SchemaRecovery.CommandLine
