import SchemaRecovery.Text.Digit
import SchemaRecovery.Text.Quoted

set_option autoImplicit false

namespace SchemaRecovery.CommandLine

inductive Switch where
  | help
  | input
  | output
  | version
  | dumpCatalog
  | noCheck
  | verbose
deriving Repr, DecidableEq

namespace Switch

def spellings : List (String × Switch) := [
  ("-h", help), ("--help", help), ("--input", input), ("-i", input), ("--output", output),
  ("-o", output), ("--version", version), ("--dump-catalog", dumpCatalog), ("--no-check", noCheck),
  ("--verbose", verbose), ("-v", verbose)]

def ofSpelling? (spelling : String) : Option Switch := spellings.lookup spelling

def label (switch : Switch) : String :=
  String.intercalate "/" ((spellings.filter fun item => item.2 = switch).map (·.1))

def takesValue : Switch → Bool
  | input | output | version | dumpCatalog => true
  | help | noCheck | verbose => false

end Switch

inductive UsageFault where
  | ambiguous (argument : String) (matching : List String)
  | valueMissing (switch : Switch)
  | valueIgnored (switch : Switch) (value : String)
  | unrecognized (arguments : List String)
deriving Repr, DecidableEq

def UsageFault.message : UsageFault → String
  | ambiguous argument matching =>
    "ambiguous option: " ++ argument ++ " could match " ++ String.intercalate ", " matching
  | valueMissing switch => "argument " ++ switch.label ++ ": expected one argument"
  | valueIgnored switch value =>
    "argument " ++ switch.label ++ ": ignored explicit argument " ++ Text.quoted value
  | unrecognized arguments => "unrecognized arguments: " ++ String.intercalate " " arguments

inductive Reading where
  | operand
  | separator
  | unknown
  | switch (switch : Switch) (isLong : Bool) (attached : Option (List Char))
deriving Repr, DecidableEq

def splitEqual : List Char → List Char × Option (List Char)
  | [] => ([], none)
  | c :: rest =>
    if c = '=' then ([], some rest)
    else
      let (before, after) := splitEqual rest
      (c :: before, after)

def isLongSpelling (spelling : List Char) : Bool := ['-', '-'].isPrefixOf spelling

def longMatches (argument : List Char) : List (String × Reading) :=
  let (start, value?) := splitEqual argument
  (Switch.spellings.filter fun item => start.isPrefixOf item.1.toList).map fun (spelling, switch) =>
    (spelling, .switch switch true value?)

def shortMatches (argument : List Char) : List (String × Reading) :=
  (Switch.spellings.filter fun item => item.1.toList = argument.take 2).map fun (spelling, switch) =>
    (spelling, .switch switch false (some (argument.drop 2)))

def isDigits (text : List Char) : Bool := text.all fun c => (Text.digitValue? c).isSome

def isNegativeNumber : List Char → Bool
  | '-' :: text =>
    let text := if text.getLast? = some '\n' then text.dropLast else text
    let whole := text.takeWhile (· ≠ '.')
    match text.drop whole.length with
    | [] => !whole.isEmpty && isDigits whole
    | _ :: places => isDigits whole && !places.isEmpty && isDigits places
  | _ => false

def readInexact (argument : String) : Except UsageFault Reading :=
  let chars := argument.toList
  match if isLongSpelling chars then longMatches chars else shortMatches chars with
  | [(_, reading)] => .ok reading
  | [] =>
    if isNegativeNumber chars || chars.contains ' ' then .ok .operand else .ok .unknown
  | several => .error (.ambiguous argument (several.map (·.1)))

def readArgument (argument : String) : Except UsageFault Reading :=
  let chars := argument.toList
  if chars.head? ≠ some '-' then .ok .operand
  else
    match Switch.ofSpelling? argument with
    | some switch => .ok (.switch switch (isLongSpelling chars) none)
    | none =>
      if chars.length = 1 then .ok .operand
      else
        match splitEqual chars with
        | (spelling, some value) =>
          match Switch.ofSpelling? (String.ofList spelling) with
          | some switch => .ok (.switch switch (isLongSpelling spelling) (some value))
          | none => readInexact argument
        | (_, none) => readInexact argument

def readArguments : List String → Except UsageFault (List (String × Reading))
  -- Reads all arguments. Behind two hyphens that stand alone, everything is an operand.
  | [] => .ok []
  | argument :: rest =>
    if argument = "--" then
      .ok ((argument, .separator) :: rest.map fun other => (other, .operand))
    else do
      let reading ← readArgument argument
      let readings ← readArguments rest
      .ok ((argument, reading) :: readings)

inductive Value where
  | text (text : String)
  | nothing
deriving Repr, DecidableEq

namespace Value

def ofAttached (attached : List Char) : Value :=
  if attached = ['-', '-'] then nothing else text (String.ofList attached)

def shown : Value → String
  | text value => value
  | nothing => "[]"

def present? : Value → Option String
  | text value => if value = "" then none else some value
  | nothing => none

end Value

structure Options where
  input : Option Value := none
  output : Option Value := none
  version : Option Value := none
  dumpCatalog : Option Value := none
  noCheck : Bool := false
  verbose : Bool := false
deriving Repr, DecidableEq

inductive Stop where
  | help
  | fault (fault : UsageFault)
deriving Repr, DecidableEq

inductive Setting where
  | flag (switch : Switch)
  | value (switch : Switch) (value : Value)
deriving Repr, DecidableEq

def Setting.apply (options : Options) : Setting → Except Stop Options
  | flag .help => .error .help
  | flag .noCheck => .ok { options with noCheck := true }
  | flag .verbose => .ok { options with verbose := true }
  | value .input given => .ok { options with input := some given }
  | value .output given => .ok { options with output := some given }
  | value .version given => .ok { options with version := some given }
  | value .dumpCatalog given => .ok { options with dumpCatalog := some given }
  | flag _ | value .. => .ok options

structure Cluster where
  settings : List Setting
  waiting : Option Switch := none
deriving Repr, DecidableEq

def Cluster.ofLast (switch : Switch) : Cluster :=
  if switch.takesValue then ⟨[], some switch⟩ else ⟨[.flag switch], none⟩

def readCluster (switch : Switch) (attached : List Char) : Except UsageFault Cluster :=
  if switch.takesValue then .ok ⟨[.value switch (.ofAttached attached)], none⟩
  else
    match attached with
    | [] => .error (.valueIgnored switch "")
    | letter :: rest =>
      match Switch.ofSpelling? (String.ofList ['-', letter]) with
      | none => .error (.valueIgnored switch (String.ofList attached))
      | some next =>
        let more := if rest.isEmpty then .ok (Cluster.ofLast next) else readCluster next rest
        more.map fun cluster => { cluster with settings := .flag switch :: cluster.settings }

def Cluster.ofReading (switch : Switch) (isLong : Bool) (attached : Option (List Char)) :
    Except UsageFault Cluster :=
  match attached with
  | none => .ok (Cluster.ofLast switch)
  | some text =>
    if !isLong then readCluster switch text
    else if switch.takesValue then .ok ⟨[.value switch (.ofAttached text)], none⟩
    else .error (.valueIgnored switch (String.ofList text))

def applyAll (options : Options) (settings : List Setting) : Except Stop Options :=
  settings.foldlM Setting.apply options

def carryOut (options : Options) (extras : List String) :
    List (String × Reading) → Except Stop Options
  | [] =>
    if extras.isEmpty then .ok options else .error (.fault (.unrecognized extras))
  | (_, .switch switch isLong attached) :: rest =>
    match Cluster.ofReading switch isLong attached with
    | .error fault => .error (.fault fault)
    | .ok cluster =>
      match cluster.waiting with
      | none =>
        match applyAll options cluster.settings with
        | .error stop => .error stop
        | .ok options => carryOut options extras rest
      | some waiting =>
        match rest with
        | (text, .operand) :: rest =>
          match applyAll options (cluster.settings ++ [.value waiting (.text text)]) with
          | .error stop => .error stop
          | .ok options => carryOut options extras rest
        | _ => .error (.fault (.valueMissing waiting))
  | (argument, _) :: rest => carryOut options (extras ++ [argument]) rest

def Options.ofArguments (arguments : List String) : Except Stop Options :=
  match readArguments arguments with
  | .error fault => .error (.fault fault)
  | .ok readings => carryOut {} [] readings

def usage : List String := [
  "usage: proto_wrangler.py [-h] [--input INPUT] [--output OUTPUT]",
  "                         [--version VERSION] [--dump-catalog DUMP_CATALOG]",
  "                         [--no-check] [--verbose]"]

def help : List String := usage ++ [
  "",
  "Extract the proto3 schema embedded in a web-client bundle",
  "",
  "options:",
  "  -h, --help            show this help message and exit",
  "  --input INPUT, -i INPUT",
  "                        Path to the downloaded bundle source",
  "  --output OUTPUT, -o OUTPUT",
  "                        Path of the .proto file to write",
  "  --version VERSION     Client version recorded in the document header",
  "  --dump-catalog DUMP_CATALOG",
  "                        Also write the resolved catalog as JSON to this path",
  "  --no-check            Skip re-parsing the generated document",
  "  --verbose, -v         Enable verbose output for debugging"]

def usageError (fault : UsageFault) : List String :=
  usage ++ ["proto_wrangler.py: error: " ++ fault.message]

end SchemaRecovery.CommandLine
