import SchemaRecovery.Decimal.Numeral
import SchemaRecovery.Text.Quoted

set_option autoImplicit false

namespace SchemaRecovery.Proto

structure Place where
  line : Nat
  column : Nat
deriving Repr, DecidableEq

namespace Place

def start : Place := ⟨1, 1⟩

def after (place : Place) (c : Char) : Place :=
  if c = '\n' then ⟨place.line + 1, 1⟩ else ⟨place.line, place.column + 1⟩

def afterAll (place : Place) (text : List Char) : Place := text.foldl after place

end Place

inductive Keyword where
  | syntaxWord
  | packageWord
  | messageWord
  | enumWord
  | oneofWord
  | mapWord
  | repeatedWord
  | requiredWord
  | optionalWord
deriving Repr, DecidableEq

namespace Keyword

def all : List Keyword := [
  syntaxWord, packageWord, messageWord, enumWord, oneofWord, mapWord, repeatedWord, requiredWord,
  optionalWord]

def spelling : Keyword → String
  | syntaxWord => "syntax"
  | packageWord => "package"
  | messageWord => "message"
  | enumWord => "enum"
  | oneofWord => "oneof"
  | mapWord => "map"
  | repeatedWord => "repeated"
  | requiredWord => "required"
  | optionalWord => "optional"

def label : Keyword → String
  | syntaxWord => "SYNTAX"
  | packageWord => "PACKAGE"
  | messageWord => "MESSAGE"
  | enumWord => "ENUM"
  | oneofWord => "ONEOF"
  | mapWord => "MAP"
  | repeatedWord => "REPEATED"
  | requiredWord => "REQUIRED"
  | optionalWord => "OPTIONAL"

end Keyword

inductive Mark where
  | equal
  | semicolon
  | leftBrace
  | rightBrace
  | less
  | more
  | comma
  | leftBracket
  | rightBracket
  | dot
deriving Repr, DecidableEq

namespace Mark

def all : List Mark := [
  equal, semicolon, leftBrace, rightBrace, less, more, comma, leftBracket, rightBracket, dot]

def char : Mark → Char
  | equal => '='
  | semicolon => ';'
  | leftBrace => '\x7b'
  | rightBrace => '\x7d'
  | less => '<'
  | more => '>'
  | comma => ','
  | leftBracket => '['
  | rightBracket => ']'
  | dot => '.'

def label : Mark → String
  | equal => "EQUAL"
  | semicolon => "SEMICOLON"
  | leftBrace => "LBRACE"
  | rightBrace => "RBRACE"
  | less => "LESSTHAN"
  | more => "MORETHAN"
  | comma => "COMMA"
  | leftBracket => "LSQB"
  | rightBracket => "RSQB"
  | dot => "DOT"

end Mark

inductive Terminal where
  | name
  | number
  | signedNumber
  | quotedText
  | keyword (word : Keyword)
  | mark (sign : Mark)
  | endOfText
deriving Repr, DecidableEq

def Terminal.label : Terminal → String
  | name => "NAME"
  | number => "INT"
  | signedNumber => "SIGNED_INT"
  | quotedText => "ESCAPED_STRING"
  | keyword word => word.label
  | mark sign => sign.label
  | endOfText => "$END"

def isNameStart (c : Char) : Bool := c.isAlpha || c = '_'

def isNamePart (c : Char) : Bool := c.isAlphanum || c = '_'

def isLayoutChar (c : Char) : Bool := [' ', '\t', '\x0c', '\r', '\n'].contains c

def nameAt : List Char → Option (List Char)
  | [] => none
  | c :: rest => if isNameStart c then some (c :: rest.takeWhile isNamePart) else none

def numberAt (text : List Char) : Option (List Char) :=
  let digits := text.takeWhile Char.isDigit
  if digits.isEmpty then none else some digits

def signedNumberAt : List Char → Option (List Char)
  | [] => none
  | c :: rest =>
    if c = '+' ∨ c = '-' then (numberAt rest).map (c :: ·) else numberAt (c :: rest)

def quotedTail : List Char → Option (List Char)
  | [] => none
  | '\x22' :: _ => some ['\x22']
  | '\\' :: c :: rest => if c = '\n' then none else (quotedTail rest).map fun tail => '\\' :: c :: tail
  | c :: rest => if c = '\n' then none else (quotedTail rest).map (c :: ·)

def quotedTextAt : List Char → Option (List Char)
  | '\x22' :: rest => (quotedTail rest).map ('\x22' :: ·)
  | _ => none

structure Lexeme where
  terminal : Terminal
  text : List Char
deriving Repr, DecidableEq

def classifyName (accepted : List Terminal) (text : List Char) : Lexeme :=
  match Keyword.all.find? fun word => word.spelling.toList = text && accepted.contains (.keyword word) with
  | some word => ⟨.keyword word, text⟩
  | none => ⟨.name, text⟩

def keywordAt (accepted : List Terminal) (text : List Char) : Option Lexeme :=
  (Keyword.all.find? fun word =>
    accepted.contains (.keyword word) && word.spelling.toList.isPrefixOf text).map
      fun word => ⟨.keyword word, word.spelling.toList⟩

def markAt (accepted : List Terminal) : List Char → Option Lexeme
  | [] => none
  | c :: _ =>
    (Mark.all.find? fun sign => accepted.contains (.mark sign) && sign.char = c).map
      fun sign => ⟨.mark sign, [c]⟩

def ifAccepted (accepted : List Terminal) (terminal : Terminal) (found : Option (List Char)) :
    Option Lexeme :=
  if accepted.contains terminal then found.map (Lexeme.mk terminal) else none

def wordAt (accepted : List Terminal) (text : List Char) : Option Lexeme :=
  -- A name or a keyword. Where names are accepted, keywords are looked for among them.
  if accepted.contains .name then (nameAt text).map (classifyName accepted)
  else keywordAt accepted text

def lexemeAt (accepted : List Terminal) (text : List Char) : Option Lexeme :=
  (ifAccepted accepted .quotedText (quotedTextAt text)).or <|
  (ifAccepted accepted .signedNumber (signedNumberAt text)).or <|
  (ifAccepted accepted .number (numberAt text)).or <|
  (wordAt accepted text).or (markAt accepted text)

def Terminal.all : List Terminal :=
  [.name, .number, .signedNumber, .quotedText] ++ Keyword.all.map .keyword ++ Mark.all.map .mark

def gapAt : List Char → List Char
  | [] => []
  | '/' :: '/' :: rest => '/' :: '/' :: comment rest
  | c :: rest => if isLayoutChar c then c :: gapAt rest else []
where
  comment : List Char → List Char
    | [] => []
    | c :: rest => if c = '\n' then c :: gapAt rest else c :: comment rest

structure Token where
  terminal : Terminal
  text : String
  place : Place
deriving Repr, DecidableEq

inductive SyntaxFault where
  | unexpectedToken (token : Token)
  | unexpectedChar (code : Nat) (place : Place)
deriving Repr, DecidableEq

namespace SyntaxFault

def place : SyntaxFault → Place
  | unexpectedToken token => token.place
  | unexpectedChar _ place => place

def headline : SyntaxFault → String
  -- The first line of what is told. The lines behind it list what was expected, in no fixed
  -- order.
  | unexpectedToken token =>
    "Unexpected token Token('" ++ token.terminal.label ++ "', " ++ Text.quoted token.text
      ++ ") at line " ++ Decimal.numeral token.place.line ++ ", column "
      ++ Decimal.numeral token.place.column ++ "."
  | unexpectedChar code place =>
    "No terminal matches '" ++ String.ofList (Text.hold code) ++ "' in the current parser context, at line "
      ++ Decimal.numeral place.line ++ " col " ++ Decimal.numeral place.column

end SyntaxFault

structure Source where
  text : List Char
  place : Place
deriving Repr, DecidableEq

namespace Source

def ofText (text : String) : Source := ⟨text.toList, Place.start⟩

def skipGap (source : Source) : Source :=
  let gap := gapAt source.text
  ⟨source.text.drop gap.length, source.place.afterAll gap⟩

def drop (source : Source) (lexeme : Lexeme) : Source :=
  ⟨source.text.drop lexeme.text.length, source.place.afterAll lexeme.text⟩

end Source

def Lexeme.token (lexeme : Lexeme) (place : Place) : Token :=
  ⟨lexeme.terminal, String.ofList lexeme.text, place⟩

def nextToken (accepted : List Terminal) (source : Source) :
    Except SyntaxFault (Option (Token × Source)) :=
  let source := source.skipGap
  match source.text with
  | [] => .ok none
  | c :: rest =>
    match lexemeAt accepted source.text with
    | some lexeme => .ok (some (lexeme.token source.place, source.drop lexeme))
    | none =>
      match lexemeAt Terminal.all source.text with
      | some lexeme => .error (.unexpectedToken (lexeme.token source.place))
      | none => .error (.unexpectedChar ((Text.codes (c :: rest)).headD c.toNat) source.place)

theorem name_at_nonempty {text found : List Char} (name : nameAt text = some found) : found ≠ [] := by
  cases text with
  | nil => cases name
  | cons c rest =>
      simp only [nameAt] at name
      split at name
      · obtain rfl := Option.some.inj name
        exact List.cons_ne_nil _ _
      · cases name

theorem number_at_nonempty {text found : List Char} (number : numberAt text = some found) : found ≠ [] := by
  simp only [numberAt] at number
  split at number
  · cases number
  · rename_i filled
    obtain rfl := Option.some.inj number
    exact fun empty => filled (List.isEmpty_iff.mpr empty)

theorem signed_number_at_nonempty {text found : List Char} (number : signedNumberAt text = some found) : found ≠ [] := by
  cases text with
  | nil => cases number
  | cons c rest =>
      simp only [signedNumberAt] at number
      split at number
      · obtain ⟨digits, _, rfl⟩ := Option.map_eq_some_iff.mp number
        exact List.cons_ne_nil _ _
      · exact number_at_nonempty number

theorem quoted_text_at_nonempty {text found : List Char} (quoted : quotedTextAt text = some found) : found ≠ [] := by
  unfold quotedTextAt at quoted
  split at quoted
  · obtain ⟨tail, _, rfl⟩ := Option.map_eq_some_iff.mp quoted
    exact List.cons_ne_nil _ _
  · cases quoted

theorem classify_name_text (accepted : List Terminal) (text : List Char) :
    (classifyName accepted text).text = text := by
  unfold classifyName
  split <;> rfl

theorem keyword_at_nonempty {accepted : List Terminal} {text : List Char} {lexeme : Lexeme}
    (found : keywordAt accepted text = some lexeme) : lexeme.text ≠ [] := by
  obtain ⟨word, _, rfl⟩ := Option.map_eq_some_iff.mp found
  cases word <;> simp [Keyword.spelling]

theorem mark_at_nonempty {accepted : List Terminal} {text : List Char} {lexeme : Lexeme}
    (found : markAt accepted text = some lexeme) : lexeme.text ≠ [] := by
  cases text with
  | nil => cases found
  | cons c rest =>
      obtain ⟨sign, _, rfl⟩ := Option.map_eq_some_iff.mp found
      exact List.cons_ne_nil _ _

theorem if_accepted_text {accepted : List Terminal} {terminal : Terminal} {found : Option (List Char)} {lexeme : Lexeme}
    (taken : ifAccepted accepted terminal found = some lexeme) : found = some lexeme.text := by
  simp only [ifAccepted] at taken
  split at taken
  · obtain ⟨text, read, rfl⟩ := Option.map_eq_some_iff.mp taken
    exact read
  · cases taken

theorem word_at_nonempty {accepted : List Terminal} {text : List Char} {lexeme : Lexeme}
    (found : wordAt accepted text = some lexeme) : lexeme.text ≠ [] := by
  simp only [wordAt] at found
  split at found
  · obtain ⟨name, read, rfl⟩ := Option.map_eq_some_iff.mp found
    rw [classify_name_text]
    exact name_at_nonempty read
  · exact keyword_at_nonempty found

theorem lexeme_at_nonempty {accepted : List Terminal} {text : List Char} {lexeme : Lexeme}
    (found : lexemeAt accepted text = some lexeme) : lexeme.text ≠ [] := by
  simp only [lexemeAt, Option.or_eq_some_iff] at found
  rcases found with quoted | ⟨_, signed | ⟨_, number | ⟨_, word | ⟨_, mark⟩⟩⟩⟩
  · exact quoted_text_at_nonempty (if_accepted_text quoted)
  · exact signed_number_at_nonempty (if_accepted_text signed)
  · exact number_at_nonempty (if_accepted_text number)
  · exact word_at_nonempty word
  · exact mark_at_nonempty mark

theorem skip_gap_length_le (source : Source) : source.skipGap.text.length ≤ source.text.length := by
  simp [Source.skipGap]

theorem next_token_shorter {accepted : List Terminal} {source rest : Source} {token : Token}
    (next : nextToken accepted source = .ok (some (token, rest))) : rest.text.length < source.text.length := by
  have skipped := skip_gap_length_le source
  simp only [nextToken] at next
  split at next
  · cases next
  · rename_i c tail begins
    split at next
    · rename_i lexeme found
      simp only [Except.ok.injEq, Option.some.injEq, Prod.mk.injEq] at next
      obtain ⟨_, rfl⟩ := next
      have taken := List.length_pos_iff.mpr (lexeme_at_nonempty found)
      have left : 0 < source.skipGap.text.length := by simp [begins]
      simp only [Source.drop, List.length_drop]
      omega
    · split at next <;> cases next

end SchemaRecovery.Proto
