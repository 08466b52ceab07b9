import SchemaRecovery.Schema.Definition

set_option autoImplicit false

namespace SchemaRecovery.Proto

inductive Label where
  | repeated
  | required
  | optional
deriving Repr, DecidableEq

namespace Label

def spelling : Label → String
  | repeated => "repeated"
  | required => "required"
  | optional => "optional"

def isAllowed : Label → Bool
  | repeated => true
  | required | optional => false

end Label

structure FieldDeclaration where
  name : String
  number : Nat
  types : List String
  label : Option Label
  line : Nat
deriving Repr, DecidableEq

inductive Declaration where
  | field (single : FieldDeclaration)
  | oneof (name : String) (line : Nat) (members : List FieldDeclaration)
  | enum (name : String) (line : Nat) (values : List Schema.EnumValue)
  | message (name : String) (line : Nat) (members : List Declaration)
deriving Repr

namespace Declaration

def ownFields : Declaration → List FieldDeclaration
  | field single => [single]
  | oneof _ _ members => members
  | _ => []

def typeName? : Declaration → Option String
  | message name _ _ => some name
  | enum name _ _ => some name
  | _ => none

def isType (declaration : Declaration) : Bool := declaration.typeName?.isSome

end Declaration

def fieldsOf (members : List Declaration) : List FieldDeclaration :=
  members.flatMap Declaration.ownFields

def nestedIn (members : List Declaration) : List Declaration :=
  members.filter Declaration.isType

end SchemaRecovery.Proto
