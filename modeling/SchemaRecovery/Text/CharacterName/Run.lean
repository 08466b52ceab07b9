set_option autoImplicit false

namespace SchemaRecovery.Text

structure NameRun where
  -- The names from a first code point on. Each starts with the same words; the ways in which
  -- they go on are separated by semicolons.
  first : Nat
  start : String
  endings : List String
deriving Repr

def NameRun.names (run : NameRun) : List String :=
  (run.endings.flatMap (·.splitOn ";")).map (run.start ++ ·)

def NameRun.code? (run : NameRun) (name : String) : Option Nat :=
  if run.start.isPrefixOf name then (run.names.idxOf? name).map (run.first + ·) else none

end SchemaRecovery.Text
