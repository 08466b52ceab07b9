import SchemaRecovery.Text.Quoted

set_option autoImplicit false

namespace SchemaRecovery.Script

inductive PatternFlag where
  | template
  | ignoreCase
  | multiline
  | dotAll
  | verbose
  | ascii
  | unicode
deriving Repr, DecidableEq

namespace PatternFlag

def ofLetter? : Char → Option PatternFlag
  | 't' => some template
  | 'i' => some ignoreCase
  | 'm' => some multiline
  | 's' => some dotAll
  | 'x' => some verbose
  | 'a' => some ascii
  | 'u' => some unicode
  | _ => none

def shown : List (PatternFlag × String) := [
  (template, "re.TEMPLATE"), (ignoreCase, "re.IGNORECASE"), (multiline, "re.MULTILINE"),
  (dotAll, "re.DOTALL"), (verbose, "re.VERBOSE"), (ascii, "re.ASCII")]

end PatternFlag

structure Pattern where
  codes : List Nat
  flags : List PatternFlag
deriving Repr, DecidableEq

namespace Pattern

def flagText (pattern : Pattern) : String :=
  String.intercalate "|"
    ((PatternFlag.shown.filter fun flag => pattern.flags.contains flag.1).map (·.2))

def text (pattern : Pattern) : String :=
  let body := String.ofList ((Text.quotedCodes pattern.codes).take 200)
  let flags := pattern.flagText
  "re.compile(" ++ body ++ (if flags = "" then "" else ", " ++ flags) ++ ")"

end Pattern

end SchemaRecovery.Script
