set_option autoImplicit false

namespace SchemaRecovery.Text

def isTextLineEnd (c : Char) : Bool :=
  ['\n', '\x0b', '\x0c', '\r', '\x1c', '\x1d', '\x1e', '\x85', '\u2028', '\u2029'].contains c

def isScriptLineEnd (c : Char) : Bool :=
  ['\n', '\r', '\u2028', '\u2029'].contains c

def splitLines (isEnd : Char → Bool) : List Char → List (List Char)
  | [] => []
  | '\r' :: '\n' :: rest => [] :: splitLines isEnd rest
  | c :: rest =>
    if isEnd c then
      [] :: splitLines isEnd rest
    else
      match splitLines isEnd rest with
      | [] => [[c]]
      | line :: lines => (c :: line) :: lines

def normalizeNewlines : List Char → List Char
  | [] => []
  | '\r' :: '\n' :: rest => '\n' :: normalizeNewlines rest
  | c :: rest => (if c = '\r' then '\n' else c) :: normalizeNewlines rest

def joinLines (lines : List String) : String := String.intercalate "\n" lines

end SchemaRecovery.Text
