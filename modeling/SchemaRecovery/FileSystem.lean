import SchemaRecovery.Schema.Nesting

set_option autoImplicit false

namespace SchemaRecovery

abbrev Location := List String

inductive Entry where
  | file (bytes : List UInt8)
  | directory
deriving Repr, DecidableEq

structure FileSystem where
  -- Entries by their locations, and the directory from which paths are seen. The root has no
  -- entry and always is a directory.
  entries : List (Location × Entry) := []
  working : Location := []
deriving Repr, DecidableEq

inductive PathFault where
  | missing
  | exists
  | isDirectory
  | notDirectory
deriving Repr, DecidableEq

structure Path where
  rooted : Bool
  parts : List String
deriving Repr, DecidableEq

namespace Path

def splitSlashes : List Char → List (List Char)
  | [] => [[]]
  | c :: rest =>
    if c = '/' then [] :: splitSlashes rest
    else
      match splitSlashes rest with
      | [] => [[c]]
      | part :: parts => (c :: part) :: parts

def ofText (text : String) : Path where
  rooted := text.toList.head? = some '/'
  parts := (splitSlashes text.toList).map String.ofList

def empty : Path := ⟨false, [""]⟩

def directory (path : Path) : Path :=
  let parts := (path.parts.dropLast.reverse.dropWhile (· = "")).reverse
  { path with parts := parts }

def isStart (path : Path) : Bool := path.parts.all (· = "")

end Path

namespace FileSystem

def entry? (files : FileSystem) (location : Location) : Option Entry :=
  if location = [] then some .directory else files.entries.lookup location

inductive Target where
  | found (location : Location) (entry : Entry)
  | vacant (location : Location)
  | unreachable (fault : PathFault)
deriving Repr, DecidableEq

def follow (files : FileSystem) (here : Location) : List String → Target
  | [] => .found here .directory
  | part :: rest =>
    if part = "" ∨ part = "." then follow files here rest
    else if part = ".." then follow files here.dropLast rest
    else
      let next := here ++ [part]
      match files.entry? next with
      | some .directory => follow files next rest
      | some (.file bytes) =>
        if rest = [] then .found next (.file bytes) else .unreachable .notDirectory
      | none => if rest = [] then .vacant next else .unreachable .missing

def startOf (files : FileSystem) (path : Path) : Location :=
  if path.rooted then [] else files.working

def target (files : FileSystem) (path : Path) : Target :=
  if path = Path.empty then .unreachable .missing
  else follow files (files.startOf path) path.parts

def has (files : FileSystem) (path : Path) : Bool :=
  match files.target path with
  | .found .. => true
  | _ => false

def isDirectory (files : FileSystem) (path : Path) : Bool :=
  match files.target path with
  | .found _ .directory => true
  | _ => false

def read (files : FileSystem) (path : Path) : Except PathFault (List UInt8) :=
  match files.target path with
  | .found _ (.file bytes) => .ok bytes
  | .found _ .directory => .error .isDirectory
  | .vacant _ => .error .missing
  | .unreachable fault => .error fault

def putEntry (location : Location) (entry : Entry) :
    List (Location × Entry) → List (Location × Entry)
  | [] => [(location, entry)]
  | other :: rest =>
    if other.1 = location then (location, entry) :: rest else other :: putEntry location entry rest

def put (files : FileSystem) (location : Location) (entry : Entry) : FileSystem :=
  { files with entries := putEntry location entry files.entries }

def write (files : FileSystem) (path : Path) (bytes : List UInt8) : Except PathFault FileSystem :=
  match files.target path with
  | .found location (.file _) => .ok (files.put location (.file bytes))
  | .found _ .directory => .error .isDirectory
  | .vacant location => .ok (files.put location (.file bytes))
  | .unreachable fault => .error fault

def makeDirectory (files : FileSystem) (path : Path) : Except PathFault FileSystem :=
  match files.target path with
  | .vacant location => .ok (files.put location .directory)
  | .found .. => .error .exists
  | .unreachable fault => .error fault

def makeReversed (files : FileSystem) (rooted : Bool) : List String → Except PathFault FileSystem
  | [] => .ok files
  | part :: outer => do
    let around : Path := ⟨rooted, outer.reverse⟩
    let ready := around.isStart || files.has around
    let files ← if ready then .ok files else makeReversed files rooted outer
    let path : Path := ⟨rooted, (part :: outer).reverse⟩
    if !ready ∧ part = "." then .ok files
    else if files.isDirectory path then .ok files
    else files.makeDirectory path

def makeDirectories (files : FileSystem) (path : Path) : Except PathFault FileSystem :=
  if path.isStart then .ok files else files.makeReversed path.rooted path.parts.reverse

def writeWithin (files : FileSystem) (path : Path) (bytes : List UInt8) :
    Except PathFault FileSystem := do
  (← files.makeDirectories path.directory).write path bytes

def stepInto (here : Location) (part : String) : Location :=
  if part = "" ∨ part = "." then here
  else if part = ".." then here.dropLast
  else here ++ [part]

def locate (files : FileSystem) (path : Path) : Location :=
  path.parts.foldl stepInto (files.startOf path)

def waypoints (files : FileSystem) (path : Path) : List Location :=
  (List.range (path.parts.length + 1)).map fun count =>
    (path.parts.take count).foldl stepInto (files.startOf path)

def absolute (files : FileSystem) (path : Path) : Path := ⟨true, "" :: files.locate path⟩

def changesSince (after before : FileSystem) : List (Location × Entry) :=
  after.entries.filter fun item => before.entries.lookup item.1 ≠ some item.2

end FileSystem

def Location.text (location : Location) : String := "/" ++ String.intercalate "/" location

end SchemaRecovery
