set_option autoImplicit false

namespace SchemaRecovery.Schema.Name

def separator : Char := '$'

def splitSegments : List Char → List (List Char)
  | [] => [[]]
  | c :: rest =>
    if c = separator then
      [] :: splitSegments rest
    else
      match splitSegments rest with
      | [] => [[c]]
      | segment :: segments => (c :: segment) :: segments

def joinSegments : List (List Char) → List Char
  | [] => []
  | [segment] => segment
  | segment :: segments => segment ++ separator :: joinSegments segments

def segments (name : String) : List (List Char) := splitSegments name.toList

def stripSuffix (suffix name : String) : String :=
  if suffix.toList ≠ [] ∧ suffix.toList.isSuffixOf name.toList ∧ suffix.length < name.length then
    String.ofList (name.toList.take (name.length - suffix.length))
  else
    name

def short (name : String) : String := String.ofList ((segments name).getLastD [])

def nestingPath (name : String) : String := String.ofList (joinSegments (segments name).dropLast)

def dotted (name : String) : String :=
  String.ofList (name.toList.map fun c => if c = separator then '.' else c)

def shownInside (child parent : String) : String :=
  let opening := parent.toList ++ [separator]
  if opening.isPrefixOf child.toList then
    String.ofList (child.toList.drop opening.length)
  else
    short child

def reference (typeName path enclosing : String) : String :=
  -- How a field of `enclosing` refers to a type by names alone: by its last segment if it is
  -- nested there or not at all, and by its whole path otherwise.
  if path ≠ "" ∧ path ≠ enclosing then dotted path ++ "." ++ short typeName else short typeName

theorem split_segments_nonempty (text : List Char) : splitSegments text ≠ [] := by
  cases text with
  | nil => simp [splitSegments]
  | cons c rest =>
    unfold splitSegments
    split
    · simp
    · split <;> simp

theorem join_split (text : List Char) : joinSegments (splitSegments text) = text := by
  induction text with
  | nil => rfl
  | cons c rest ih =>
    cases split : splitSegments rest with
    | nil => exact absurd split (split_segments_nonempty rest)
    | cons segment segments =>
      rw [split] at ih
      by_cases separates : c = separator
      · simp [splitSegments, separates, split, joinSegments, ih]
      · cases segments <;> simp_all [splitSegments, joinSegments]

theorem join_segments_shorter (segments : List (List Char)) :
    joinSegments segments.dropLast = [] ∨
      (joinSegments segments.dropLast).length < (joinSegments segments).length := by
  induction segments with
  | nil => simp [joinSegments]
  | cons segment rest ih =>
    match rest, ih with
    | [], _ => simp [joinSegments]
    | [next], _ => right; simp [joinSegments]
    | next :: last :: rest, ih =>
      right
      simp only [List.dropLast_cons_cons, joinSegments, List.length_append, List.length_cons] at ih ⊢
      rcases ih with empty | shorter
      · have lengths := congrArg List.length empty
        simp only [List.length_nil] at lengths
        omega
      · omega

theorem nesting_path_shorter {name : String} (nested : nestingPath name ≠ "") :
    (nestingPath name).length < name.length := by
  rcases join_segments_shorter (segments name) with empty | shorter
  · simp [nestingPath, empty] at nested
  · have whole : joinSegments (segments name) = name.toList := join_split _
    rw [whole] at shorter
    simpa [nestingPath, String.length_toList] using shorter

end SchemaRecovery.Schema.Name
