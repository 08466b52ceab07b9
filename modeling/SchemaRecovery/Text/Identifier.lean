import SchemaRecovery.Text.Letter

set_option autoImplicit false

namespace SchemaRecovery.Text

def addedStarts : List (Nat × Nat) := [
  (0x5F, 0x5F), (0x1885, 0x1886), (0x2118, 0x2118), (0x212E, 0x212E)]

-- Characters that may stand in an identifier although they are neither letters nor marks.
def addedParts : List (Nat × Nat) := [
  (0xB7, 0xB7), (0x387, 0x387), (0x1369, 0x1371), (0x19DA, 0x19DA), (0x2118, 0x2118),
  (0x212E, 0x212E)]

def droppedParts : List (Nat × Nat) := [
  (0x37A, 0x37A), (0x2E2F, 0x2E2F), (0xFC5E, 0xFC63), (0xFDFA, 0xFDFB), (0xFE70, 0xFE70),
  (0xFE72, 0xFE72), (0xFE74, 0xFE74), (0xFE76, 0xFE76), (0xFE78, 0xFE78), (0xFE7A, 0xFE7A),
  (0xFE7C, 0xFE7C), (0xFE7E, 0xFE7E)]

-- Letters that normalisation keeps from opening an identifier, besides those it drops.
def droppedStarts : List (Nat × Nat) := [(0xE33, 0xE33), (0xEB3, 0xEB3), (0xFF9E, 0xFF9F)]

def opensIdentifier (c : Char) : Bool :=
  (isLetter c || inRanges addedStarts c) && !inRanges droppedParts c && !inRanges droppedStarts c

def continuesIdentifier (c : Char) : Bool :=
  (isLetter c || isMark c || inRanges addedParts c) && !inRanges droppedParts c

def isIdentifier : List Char → Bool
  | [] => false
  | c :: rest => opensIdentifier c && rest.all continuesIdentifier

end SchemaRecovery.Text
