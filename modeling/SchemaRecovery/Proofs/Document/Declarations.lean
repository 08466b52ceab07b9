import SchemaRecovery.Proofs.Document.Types
import SchemaRecovery.Proto.Declaration

set_option autoImplicit false

namespace SchemaRecovery.Proto

open Schema (Definition Field Member)

def fieldDeclaration (layout : Layout) (message : String) (place : FieldPlace) (line : Nat) (field : Field) :
    FieldDeclaration where
  name := field.name
  number := (field.id.getD 0).toNat
  types := printedTypes layout message field
  label := if keepsRepeated place field then some .repeated else none
  line := line

def oneofDeclarations (layout : Layout) (message : String) (line : Nat) : List Field → List FieldDeclaration
  | [] => []
  | field :: rest => fieldDeclaration layout message .inOneof line field :: oneofDeclarations layout message (line + 1) rest

def memberDeclaration (layout : Layout) (message : String) (line : Nat) : Member → Declaration
  | .field single => .field (fieldDeclaration layout message .alone line single)
  | .oneof group => .oneof group.name line (oneofDeclarations layout message (line + 1) group.members)

def memberHeight : Member → Nat
  | .field _ => 1
  | .oneof group => group.members.length + 2

def membersHeight : List Member → Nat
  | [] => 0
  | member :: rest => memberHeight member + membersHeight rest

def memberDeclarations (layout : Layout) (message : String) (line : Nat) : List Member → List Declaration
  | [] => []
  | member :: rest =>
    memberDeclaration layout message line member :: memberDeclarations layout message (line + memberHeight member) rest

mutual
def Block.height : Block → Nat
| .node definition _ nested =>
  match formOf definition nested with
  | .message => membersHeight definition.memberList + Block.heightOf nested + 2
  | .enum => definition.values.length + 2
  | .unknown => 1

def Block.heightOf : List Block → Nat
| [] => 0
| block :: rest => block.height + Block.heightOf rest
end

mutual
def Block.declarations (layout : Layout) (line : Nat) : Block → List Declaration
| .node definition shown nested =>
  match formOf definition nested with
  | .message => [.message shown line (memberDeclarations layout definition.name (line + 1) definition.memberList ++
      Block.declarationsOf layout (line + 1 + membersHeight definition.memberList) nested)]
  | .enum => [.enum shown line definition.values]
  | .unknown => []

def Block.declarationsOf (layout : Layout) (line : Nat) : List Block → List Declaration
| [] => []
| block :: rest => block.declarations layout line ++ Block.declarationsOf layout (line + block.height) rest
end

def topDeclarations (layout : Layout) (line : Nat) : List Block → List Declaration
  | [] => []
  | block :: rest => block.declarations layout line ++ topDeclarations layout (line + block.height + 1) rest

end SchemaRecovery.Proto
