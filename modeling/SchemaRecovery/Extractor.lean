import SchemaRecovery.Extraction
import SchemaRecovery.FileSystem
import SchemaRecovery.Text.Utf8

set_option autoImplicit false

namespace SchemaRecovery

open Recovery (Failure Logged)

structure Extractor where
  input : String
  output : String := "proto/whatsapp.proto"
  version : String := "latest"
  settings : Settings := {}
  verbose : Bool := false
  check : Bool := true
  source : Option String := none
  result : Option Extraction := none

inductive LoadFault where
  | missing (path : String)
  | directory (path : String)
  | undecodable (path : String) (fault : Text.Utf8.Undecodable)
deriving Repr, DecidableEq

def LoadFault.message : LoadFault → String
  | missing path => "Error: Input file '" ++ path ++ "' does not exist."
  | directory path =>
    "Error: Could not read bundle '" ++ path ++ "': [Errno 21] Is a directory: "
      ++ Text.quoted path
  | undecodable path fault => "Error: Could not read bundle '" ++ path ++ "': " ++ fault.message

def readBundle (files : FileSystem) (path : String) : Except LoadFault String :=
  match files.read (Path.ofText path) with
  | .error .isDirectory => .error (.directory path)
  | .error _ => .error (.missing path)
  | .ok bytes =>
    match Text.Utf8.decode bytes with
    | .error fault => .error (.undecodable path fault)
    | .ok text => .ok (String.ofList (Text.normalizeNewlines text.toList))

inductive ExtractFault where
  | notLoaded
  | failure (why : Failure)
deriving Repr, DecidableEq

structure Written where
  location : Location
  files : FileSystem
deriving Repr, DecidableEq

inductive WriteFault where
  | notExtracted
  | path (fault : PathFault)
  | unencodable (fault : Text.Utf8.Unencodable) (left : Written)
deriving Repr, DecidableEq

def notLoadedMessage : String := "No bundle loaded. Call load() first."

def notExtractedMessage : String := "Nothing extracted. Call extract() first."

namespace Extractor

def load (extractor : Extractor) (files : FileSystem) : Extractor × Except LoadFault Unit :=
  match readBundle files extractor.input with
  | .ok source => ({ extractor with source := some source }, .ok ())
  | .error fault => (extractor, .error fault)

def extract (extractor : Extractor) (now : String) :
    Extractor × Logged (Except ExtractFault Extraction) :=
  match extractor.source with
  | none => (extractor, ⟨.error .notLoaded, []⟩)
  | some source =>
    let extracted :=
      Extraction.ofSource extractor.settings ⟨extractor.version, now⟩ extractor.check source
    let log := if extractor.verbose then extracted.log else []
    match extracted.value with
    | .ok result => ({ extractor with result := some result }, ⟨.ok result, log⟩)
    | .error why => (extractor, ⟨.error (.failure why), log⟩)

def write (extractor : Extractor) (files : FileSystem) : Except WriteFault Written :=
  -- A file is emptied before the text for it is encoded.
  match extractor.result with
  | none => .error .notExtracted
  | some result =>
    let path := files.absolute (Path.ofText extractor.output)
    match Text.Utf8.bytes result.document with
    | .ok bytes =>
      match files.writeWithin path bytes with
      | .ok changed => .ok ⟨files.locate path, changed⟩
      | .error fault => .error (.path fault)
    | .error fault =>
      match files.writeWithin path [] with
      | .ok emptied => .error (.unencodable fault ⟨files.locate path, emptied⟩)
      | .error fault => .error (.path fault)

end Extractor

end SchemaRecovery
