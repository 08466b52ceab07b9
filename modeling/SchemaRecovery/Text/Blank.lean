import SchemaRecovery.Text.Ranges

set_option autoImplicit false

namespace SchemaRecovery.Text

def blankRanges : List (Nat × Nat) := [
  (0x9, 0xD), (0x1C, 0x20), (0x85, 0x85), (0xA0, 0xA0), (0x1680, 0x1680), (0x2000, 0x200A),
  (0x2028, 0x2029), (0x202F, 0x202F), (0x205F, 0x205F), (0x3000, 0x3000)]

def isBlank (c : Char) : Bool := inRanges blankRanges c

-- Blanks that may stand around a number, which the information separators may not.
def isNumberBlank (c : Char) : Bool := isBlank c && !within c (0x1C, 0x1F)

def trimWhere (p : Char → Bool) (text : List Char) : List Char :=
  ((text.dropWhile p).reverse.dropWhile p).reverse

def trim (text : List Char) : List Char := trimWhere isBlank text

end SchemaRecovery.Text
