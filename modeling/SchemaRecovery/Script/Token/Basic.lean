import SchemaRecovery.Script.Escape
import SchemaRecovery.Script.Node

set_option autoImplicit false

namespace SchemaRecovery.Script

inductive TokenKind where
  | name
  | keyword
  | boolean
  | null
  | number
  | text
  | template
  | pattern
  | punctuator
  | endOfText
deriving Repr, DecidableEq, Inhabited

structure Token where
  -- A token. `line` is the line on which it ends, and `word` is its text with escapes resolved.
  -- `opens` and `closes` tell whether a part of a template is its first or its last one.
  kind : TokenKind
  word : String
  raw : String
  start : Nat
  line : Nat
  value : LiteralValue := .null
  octal : Bool := false
  opens : Bool := false
  closes : Bool := false
deriving Inhabited

def keywords : List String := [
  "if", "in", "do", "var", "for", "new", "try", "let", "this", "else", "case", "void", "with",
  "enum", "while", "break", "catch", "throw", "const", "yield", "class", "super", "return",
  "typeof", "delete", "switch", "export", "import", "default", "finally", "extends", "function",
  "continue", "debugger", "instanceof"]

def futureReserved : List String := ["enum", "export", "import", "super"]

def strictReserved : List String := [
  "implements", "interface", "package", "private", "protected", "public", "static", "yield", "let"]

def isRestricted (word : String) : Bool := word == "eval" || word == "arguments"

def isStrictReserved (word : String) : Bool := strictReserved.contains word

def wordKind (word : String) : TokenKind :=
  if keywords.contains word then .keyword
  else if word = "null" then .null
  else if word = "true" ∨ word = "false" then .boolean
  else .name

def punctuators : List String := [
  ">>>=", "...", "===", "!==", ">>>", "<<=", ">>=", "**=", "&&", "||", "==", "!=", "+=", "-=", "*=",
  "/=", "++", "--", "<<", ">>", "&=", "|=", "^=", "%=", "<=", ">=", "=>", "**", "(", ")", ";", ",",
  "[", "]", ":", "?", "~", ".", "<", ">", "=", "!", "+", "-", "%", "&", "|", "^", "/", "*",
  "\x7b", "\x7d"]

def punctuatorAt? (text : List Char) : Option String :=
  punctuators.find? fun punctuator => punctuator.toList.isPrefixOf text

def assignmentOperators : List String := [
  "=", "*=", "**=", "/=", "%=", "+=", "-=", "<<=", ">>=", ">>>=", "&=", "^=", "|="]

def binaryPrecedence (operator : String) : Nat :=
  match operator with
  | "||" => 1
  | "&&" => 2
  | "|" => 3
  | "^" => 4
  | "&" => 5
  | "==" | "!=" | "===" | "!==" => 6
  | "<" | ">" | "<=" | ">=" => 7
  | "<<" | ">>" | ">>>" => 8
  | "+" | "-" => 9
  | "*" | "/" | "%" => 11
  | _ => 0

end SchemaRecovery.Script
