import SchemaRecovery.Proto.Document
import SchemaRecovery.Proto.Reading

set_option autoImplicit false

namespace SchemaRecovery.Proto

inductive Defect where
  | unknownEntity (name : String)
  | syntaxError (fault : SyntaxFault)
  | duplicateNumber (owner first second : String) (number : Nat)
  | forbiddenLabel (owner field : String) (label : Label)
  | placeholderType (owner field : String)
  | unknownType (owner field type : String)
deriving Repr, DecidableEq

namespace Defect

def kind : Defect → String
  | unknownEntity _ => "unknown_entity"
  | syntaxError _ => "syntax_error"
  | duplicateNumber .. => "duplicate_field_number"
  | forbiddenLabel .. => "forbidden_label"
  | placeholderType .. => "placeholder_type"
  | unknownType .. => "unknown_type"

def message : Defect → String
  | unknownEntity name => "'" ++ name ++ "' could not be rendered"
  | syntaxError fault => "Generated text is not valid proto3: " ++ fault.headline
  | duplicateNumber owner first second number =>
    owner ++ ": fields '" ++ first ++ "' and '" ++ second ++ "' share number "
      ++ Decimal.numeral number
  | forbiddenLabel owner field label =>
    owner ++ "." ++ field ++ ": label '" ++ label.spelling ++ "' is not allowed in proto3"
  | placeholderType owner field => owner ++ "." ++ field ++ " has no resolved type"
  | unknownType owner field type =>
    owner ++ "." ++ field ++ " references undeclared type '" ++ type ++ "'"

end Defect

structure Issue where
  kind : String
  message : String
  line : Option Int
deriving Repr, DecidableEq

namespace Issue

def text (issue : Issue) : String :=
  match issue.line with
  | some line => "line " ++ Decimal.intNumeral line ++ ": " ++ issue.message
  | none => issue.message

def summary (issue : Issue) : String :=
  "ProtoCheckIssue(kind=" ++ Text.quoted issue.kind ++ ", message=" ++ Text.quoted issue.message
    ++ ", line=" ++ Schema.intOr issue.line ++ ")"

end Issue

def Defect.at (defect : Defect) (line : Nat) : Issue := ⟨defect.kind, defect.message, some line⟩

def feedLines : List Char → List (List Char)
  | [] => [[]]
  | c :: rest =>
    if c = '\n' then [] :: feedLines rest
    else
      match feedLines rest with
      | [] => [[c]]
      | line :: lines => (c :: line) :: lines

def isIndentChar (c : Char) : Bool := c = ' ' || c = '\t'

def entityMark : String := "// Unknown entity "

def unknownEntity? (line : List Char) : Option String :=
  let text := line.dropWhile isIndentChar
  if entityMark.toList.isPrefixOf text then
    let name := (text.drop entityMark.length).takeWhile fun c => !Text.isBlank c
    if name.isEmpty then none else some (String.ofList name)
  else none

def unknownEntities (text : String) : List Issue :=
  ((feedLines text.toList).mapIdx fun index line =>
    (unknownEntity? line).map fun name => (Defect.unknownEntity name).at (index + 1)).filterMap id

def scalarTypes : List String := [
  "double", "float", "int32", "int64", "uint32", "uint64", "sint32", "sint64",
  "fixed32", "fixed64", "sfixed32", "sfixed64", "bool", "string", "bytes"]

def fullName (scope : List String) (name : String) : String :=
  String.intercalate "." (scope ++ [name])

mutual
def declaredIn (scope : List String) : Declaration → List String
  | .message name _ members => fullName scope name :: declaredInAll (scope ++ [name]) members
  | .enum name _ _ => [fullName scope name]
  | .oneof .. | .field _ => []

def declaredInAll (scope : List String) : List Declaration → List String
  | [] => []
  | declaration :: rest => declaredIn scope declaration ++ declaredInAll scope rest
end

def isDeclared (declared : List String) (scope : List String) (type : String) : Bool :=
  (List.range (scope.length + 1)).any fun depth => declared.contains (fullName (scope.take depth) type)

def typeDefects (declared scope : List String) (owner field : String) (type : String) :
    List Defect :=
  if type = unresolvedType then [.placeholderType owner field]
  else if scalarTypes.contains type || isDeclared declared scope type then []
  else [.unknownType owner field type]

def labelDefects (owner : String) (field : FieldDeclaration) : List Defect :=
  match field.label with
  | none => []
  | some label => if label.isAllowed then [] else [.forbiddenLabel owner field.name label]

def numberDefects (owner : String) (earlier : List FieldDeclaration) (field : FieldDeclaration) :
    List Defect :=
  match earlier.find? fun other => other.number = field.number with
  | none => []
  | some first => [.duplicateNumber owner first.name field.name field.number]

def fieldIssues (declared scope : List String) (earlier : List FieldDeclaration)
    (field : FieldDeclaration) : List Issue :=
  let owner := String.intercalate "." scope
  (numberDefects owner earlier field ++ labelDefects owner field
    ++ field.types.flatMap (typeDefects declared scope owner field.name)).map (·.at field.line)

def fieldsIssues (declared scope : List String) (earlier : List FieldDeclaration) :
    List FieldDeclaration → List Issue
  | [] => []
  | field :: rest =>
    fieldIssues declared scope earlier field ++ fieldsIssues declared scope (earlier ++ [field]) rest

mutual
def messageIssues (declared scope : List String) : Declaration → List Issue
  | .message name _ members =>
    fieldsIssues declared (scope ++ [name]) [] (fieldsOf members)
      ++ messagesIssues declared (scope ++ [name]) members
  | .enum .. | .oneof .. | .field _ => []

def messagesIssues (declared scope : List String) : List Declaration → List Issue
  | [] => []
  | declaration :: rest =>
    messageIssues declared scope declaration ++ messagesIssues declared scope rest
end

def check (text : String) : List Issue :=
  unknownEntities text ++
    match read text with
    | .error fault => [(Defect.syntaxError fault).at fault.place.line]
    | .ok declarations => messagesIssues (declaredInAll [] declarations) [] declarations

end SchemaRecovery.Proto
