set_option autoImplicit false

namespace SchemaRecovery.Schema

def sortedNames (names : List String) : List String :=
  (names.mergeSort fun a b => decide (a ≤ b)).eraseDups

def putPair {β : Type} (key : String) (value : β) : List (String × β) → List (String × β)
  | [] => [(key, value)]
  | (other, old) :: rest =>
    if other = key then (key, value) :: rest else (other, old) :: putPair key value rest

structure Nesting where
  -- The last path of every key in `paths`, and in `links` every path but the empty one, with
  -- each key that was ever registered under it.
  paths : List (String × String) := []
  links : List (String × String) := []
deriving Repr, DecidableEq

namespace Nesting

def register (nesting : Nesting) (key path : String) : Nesting :=
  { paths := putPair key path nesting.paths
    links :=
      if path = "" ∨ (path, key) ∈ nesting.links then nesting.links
      else nesting.links ++ [(path, key)] }

def pathOf (nesting : Nesting) (key : String) : String := (nesting.paths.lookup key).getD ""

def childrenOf (nesting : Nesting) (path : String) : List String :=
  sortedNames ((nesting.links.filter fun link => link.1 = path).map (·.2))

def parents (nesting : Nesting) : List String := sortedNames (nesting.links.map (·.1))

end Nesting

end SchemaRecovery.Schema
