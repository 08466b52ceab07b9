import SchemaRecovery.Schema.Catalog
import SchemaRecovery.Schema.Name

set_option autoImplicit false

namespace SchemaRecovery.Proto

open Schema (Catalog Definition Nesting Warning)

def enclosing (nesting : Nesting) (name : String) : String :=
  let path := nesting.pathOf name
  if path = "" then Schema.Name.nestingPath name else path

def stepOut (paths : List (String × String)) (name : String) :
    Option (List (String × String) × String) :=
  let path := (paths.lookup name).getD ""
  if path ≠ "" then some (paths.filter fun pair => pair.1 ≠ name, path)
  else if Schema.Name.nestingPath name ≠ "" then some (paths, Schema.Name.nestingPath name)
  else none

theorem step_out_decreases {paths paths' : List (String × String)} {name name' : String}
    (step : stepOut paths name = some (paths', name')) :
    paths'.length < paths.length ∨ paths'.length = paths.length ∧ name'.length < name.length := by
  simp only [stepOut] at step
  split at step
  · rename_i registered
    obtain ⟨rfl, _⟩ := Prod.mk.inj (Option.some.inj step)
    obtain ⟨path, found⟩ : ∃ path, paths.lookup name = some path := by
      cases found : paths.lookup name with
      | none => simp [found] at registered
      | some path => exact ⟨path, rfl⟩
    obtain ⟨before, after, rfl, _⟩ := List.lookup_eq_some_iff.mp found
    exact .inl (List.length_filter_lt_length_iff_exists.mpr ⟨(name, path), by simp, by simp⟩)
  · split at step
    · rename_i nested
      obtain ⟨rfl, rfl⟩ := Prod.mk.inj (Option.some.inj step)
      exact .inr ⟨rfl, Schema.Name.nesting_path_shorter nested⟩
    · cases step

def outward (paths : List (String × String)) (name : String) : List String :=
  -- A name and the names around it, from the inside out. A registered path is followed only
  -- once, so that the list ends even where names are registered in a circle.
  match _ : stepOut paths name with
  | none => [name]
  | some (paths', name') => name :: outward paths' name'
termination_by (paths.length, name.length)
decreasing_by
  rcases step_out_decreases ‹_› with fewer | ⟨same, shorter⟩
  · exact Prod.Lex.left _ _ fewer
  · rw [same]
    exact Prod.Lex.right _ shorter

inductive Orphan where
  | undefinedPath (path : String)
  | enumPath (path : String)
  | shellPath (path : String)
deriving Repr, DecidableEq

def Orphan.message : Orphan → String
  | undefinedPath path => "Parent '" ++ path ++ "' is not defined; rendered as an empty message"
  | enumPath path =>
    "Parent '" ++ path ++ "' is an enum and cannot nest definitions; moved to top level"
  | shellPath path =>
    "Parent '" ++ path ++ "' has neither fields nor values; rendered as an empty message"

structure Placement where
  definition : Definition
  parent : String
  orphan : Option Orphan := none
deriving Repr, DecidableEq

def Placement.name (placement : Placement) : String := placement.definition.name

def emptyMessage (name : String) : Definition :=
  { name := name, nestingPath := Schema.Name.nestingPath name, members := some [] }

def findNamed (definitions : List Definition) (name : String) : Option Definition :=
  definitions.find? fun definition => definition.name = name

def placeName (definitions : List Definition) (nesting : Nesting) (name : String) : Placement :=
  let definition := (findNamed definitions name).getD (emptyMessage name)
  let path := enclosing nesting name
  if path = "" then ⟨definition, "", none⟩ else
  match findNamed definitions path with
  | none => ⟨definition, path, some (.undefinedPath path)⟩
  | some outer =>
    if outer.isEnum then ⟨definition, "", some (.enumPath path)⟩
    else if outer.isShell then ⟨definition, path, some (.shellPath path)⟩
    else ⟨definition, path, none⟩

structure Layout where
  placements : List Placement
  synthesized : List String
deriving Repr

namespace Layout

def ofCatalog (catalog : Catalog) : Layout :=
  let definitions := catalog.byName
  let names := Schema.sortedNames (definitions.map (·.name))
  let chains := names.map (outward catalog.nesting.paths)
  { placements := (chains.flatMap List.reverse).eraseDups.map (placeName definitions catalog.nesting)
    synthesized := chains.flatten.eraseDups.filter fun name =>
      (findNamed definitions name).isNone }

def parent? (layout : Layout) (name : String) : Option String :=
  (layout.placements.find? fun placement => placement.name = name).map (·.parent)

def childrenOf (layout : Layout) (parent : String) : List String :=
  Schema.sortedNames ((layout.placements.filter fun placement => placement.parent = parent).map
    (·.name))

def printedPathIn : List Placement → String → String
  | [], name => Schema.Name.dotted name
  | placement :: before, name =>
    if placement.name = name then
      let shown := Schema.Name.shownInside name placement.parent
      if placement.parent = "" then shown
      else printedPathIn before placement.parent ++ "." ++ shown
    else printedPathIn before name

def printedPath (layout : Layout) (name : String) : String :=
  printedPathIn layout.placements.reverse name

def reference (layout : Layout) (typeName message : String) : String :=
  -- How a field of a message refers to a type: by its last part if the type stands in that
  -- message or at the top, and by its full name otherwise. Types that are not placed are named
  -- by their segments.
  match layout.parent? typeName with
  | none => Schema.Name.reference typeName (Schema.Name.nestingPath typeName) message
  | some parent =>
    let shown := Schema.Name.shownInside typeName parent
    if parent = "" ∨ parent = message then shown
    else layout.printedPath parent ++ "." ++ shown

def warnings (layout : Layout) : List Warning :=
  layout.placements.filterMap fun placement => placement.orphan.map fun orphan => {
    kind := "orphan_nested"
    message := orphan.message
    module := placement.definition.module
    definition := some placement.name }

def log (layout : Layout) : List String :=
  layout.synthesized.map fun name => "[PROTO3] synthesized parent message " ++ name

end Layout

inductive Block where
  | node (definition : Definition) (shown : String) (nested : List Block)
deriving Repr

namespace Block

def definition : Block → Definition
  | node definition _ _ => definition

def shown : Block → String
  | node _ shown _ => shown

def nested : Block → List Block
  | node _ _ nested => nested

def name (block : Block) : String := block.definition.name

def insert (block : Block) : List Block → List Block
  | [] => [block]
  | other :: rest => if block.name < other.name then block :: other :: rest else other :: insert block rest

end Block

def forest : List Placement → String → List Block
  | [], _ => []
  | placement :: rest, parent =>
    if placement.parent = parent then
      let shown := Schema.Name.shownInside placement.name parent
      Block.insert (.node placement.definition shown (forest rest placement.name)) (forest rest parent)
    else forest rest parent

def Layout.blocks (layout : Layout) : List Block := forest layout.placements ""

end SchemaRecovery.Proto
