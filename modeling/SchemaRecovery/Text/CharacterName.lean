import SchemaRecovery.Text.CharacterName.Letters
import SchemaRecovery.Text.CharacterName.Symbols

set_option autoImplicit false

namespace SchemaRecovery.Text

def nameRuns : List NameRun :=
  latinNames ++ accentNames ++ otherLetterNames ++ punctuationNames ++ mathNames ++ shapeNames
    ++ wideNames

def otherNames : List (Nat × List String) := [
  (0x00, ["NULL", "NUL"]), (0x01, ["START OF HEADING", "SOH"]), (0x02, ["START OF TEXT", "STX"]),
  (0x03, ["END OF TEXT", "ETX"]), (0x04, ["END OF TRANSMISSION", "EOT"]), (0x05, ["ENQUIRY", "ENQ"]),
  (0x06, ["ACKNOWLEDGE", "ACK"]), (0x07, ["ALERT", "BEL"]), (0x08, ["BACKSPACE", "BS"]),
  (0x09, ["CHARACTER TABULATION", "HORIZONTAL TABULATION", "HT", "TAB"]),
  (0x0A, ["LINE FEED", "NEW LINE", "END OF LINE", "LF", "NL", "EOL"]),
  (0x0B, ["LINE TABULATION", "VERTICAL TABULATION", "VT"]), (0x0C, ["FORM FEED", "FF"]),
  (0x0D, ["CARRIAGE RETURN", "CR"]), (0x0E, ["SHIFT OUT", "LOCKING-SHIFT ONE", "SO"]),
  (0x0F, ["SHIFT IN", "LOCKING-SHIFT ZERO", "SI"]), (0x10, ["DATA LINK ESCAPE", "DLE"]),
  (0x11, ["DEVICE CONTROL ONE", "DC1"]), (0x12, ["DEVICE CONTROL TWO", "DC2"]),
  (0x13, ["DEVICE CONTROL THREE", "DC3"]), (0x14, ["DEVICE CONTROL FOUR", "DC4"]),
  (0x15, ["NEGATIVE ACKNOWLEDGE", "NAK"]), (0x16, ["SYNCHRONOUS IDLE", "SYN"]),
  (0x17, ["END OF TRANSMISSION BLOCK", "ETB"]), (0x18, ["CANCEL", "CAN"]),
  (0x19, ["END OF MEDIUM", "EOM"]), (0x1A, ["SUBSTITUTE", "SUB"]), (0x1B, ["ESCAPE", "ESC"]),
  (0x1C, ["INFORMATION SEPARATOR FOUR", "FILE SEPARATOR", "FS"]),
  (0x1D, ["INFORMATION SEPARATOR THREE", "GROUP SEPARATOR", "GS"]),
  (0x1E, ["INFORMATION SEPARATOR TWO", "RECORD SEPARATOR", "RS"]),
  (0x1F, ["INFORMATION SEPARATOR ONE", "UNIT SEPARATOR", "US"]), (0x20, ["SP"]),
  (0x7F, ["DELETE", "DEL"]), (0x80, ["PADDING CHARACTER", "PAD"]), (0x85, ["NEXT LINE", "NEL"]),
  (0xA0, ["NBSP"]), (0xAD, ["SHY"]), (0x34F, ["CGJ"]), (0x200B, ["ZWSP"]), (0x200C, ["ZWNJ"]),
  (0x200D, ["ZWJ"]), (0x200E, ["LRM"]), (0x200F, ["RLM"]), (0x202F, ["NNBSP"]), (0x205F, ["MMSP"]),
  (0x2060, ["WJ"]), (0xFEFF, ["BYTE ORDER MARK", "BOM", "ZWNBSP"]), (0x1F514, ["BELL"])]

def ideographRanges : List (Nat × Nat) := [
  (0x3400, 0x4DBF), (0x4E00, 0x9FFF), (0x20000, 0x2A6DF), (0x2A700, 0x2B738), (0x2B740, 0x2B81D),
  (0x2B820, 0x2CEA1), (0x2CEB0, 0x2EBE0), (0x30000, 0x3134A)]

def capitalHexValue? (c : Char) : Option Nat :=
  if '0' ≤ c ∧ c ≤ '9' then some (c.toNat - 0x30)
  else if 'A' ≤ c ∧ c ≤ 'F' then some (c.toNat - 0x37)
  else none

def ideographCode? (number : List Char) : Option Nat := do
  let values ← number.mapM capitalHexValue?
  let code := values.foldl (fun code value => code * 16 + value) 0
  if (number.length = 4 ∨ number.length = 5) ∧ ideographRanges.any fun range =>
      range.1 ≤ code ∧ code ≤ range.2 then
    some code
  else
    none

def ideographStart : List Char := "CJK UNIFIED IDEOGRAPH-".toList

def codeOfName? (name : List Char) : Option Nat :=
  let capitals := String.ofList (name.map Char.toUpper)
  if ideographStart.isPrefixOf name then ideographCode? (name.drop ideographStart.length)
  else
    (nameRuns.findSome? (·.code? capitals)).or
      ((otherNames.find? (·.2.contains capitals)).map (·.1))

end SchemaRecovery.Text
