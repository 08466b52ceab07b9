import SchemaRecovery.Decimal.Numeral
import SchemaRecovery.SourcePatch

set_option autoImplicit false

namespace SchemaRecovery

structure Settings where
  specProperty : String := "internalSpec"
  defaultsProperty : String := "internalDefaults"
  nameProperty : String := "name"
  specSuffix : String := "Spec"
  typesTable : String := "TYPES"
  flagsTable : String := "FLAGS"
  oneofKey : String := "__oneofs__"
  constraintStart : String := "__"
  externalEnumModule : String := "$InternalEnum"
  package : String := "proto"
  indentSize : Int := 2
  clientLabel : String := "WhatsApp"
  sourcePatches : List SourcePatch := [SourcePatch.limitSharing]

namespace Settings

def reservedProperties (settings : Settings) : List String :=
  [settings.specProperty, settings.defaultsProperty, settings.nameProperty]

def indentChars (settings : Settings) : List Char := List.replicate settings.indentSize.toNat ' '

def indent (settings : Settings) : String := String.ofList settings.indentChars

def summary (settings : Settings) : String :=
  "WranglerConfig(spec_property=" ++ Text.quoted settings.specProperty ++
    ", package=" ++ Text.quoted settings.package ++
    ", indent_size=" ++ Decimal.intNumeral settings.indentSize ++
    ", client_label=" ++ Text.quoted settings.clientLabel ++ ")"

def applyPatches (settings : Settings) (source : String) : Except SourcePatch.Fault String :=
  settings.sourcePatches.foldlM (fun source patch => patch.apply source) source

abbrev Environment := List (String × String)

structure BadInteger where
  text : String
deriving Repr, DecidableEq

def BadInteger.message (bad : BadInteger) : String :=
  "invalid literal for int() with base 10: " ++ Text.quotedWithin 200 bad.text

def ofEnvironment (environment : Environment) : Except BadInteger Settings := do
  let default : Settings := {}
  let indentSize ← match environment.lookup "PW_INDENT_SIZE" with
    | none => .ok default.indentSize
    | some text =>
      match Decimal.readInt text with
      | some n => .ok n
      | none => .error ⟨text⟩
  return { default with
    indentSize := indentSize
    package := (environment.lookup "PW_PACKAGE").getD default.package
    clientLabel := (environment.lookup "PW_CLIENT_LABEL").getD default.clientLabel
    specProperty := (environment.lookup "PW_SPEC_PROPERTY").getD default.specProperty }

end Settings

end SchemaRecovery
