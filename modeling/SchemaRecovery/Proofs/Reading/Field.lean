import SchemaRecovery.Proofs.Document.Declarations
import SchemaRecovery.Proofs.Reading.Run

set_option autoImplicit false

namespace SchemaRecovery.Proto

open Schema (Catalog Definition EnumValue Field IsName)

def Point.takesAnyName (point : Point) : Bool :=
  point.accepted.contains .name && Keyword.all.all fun word => !point.accepted.contains (.keyword word)

theorem takes_any_name (point : Point) (free : point.takesAnyName) :
    point.accepted.contains .name ∧ ∀ word, point.accepted.contains (.keyword word) = false := by
  simp only [Point.takesAnyName, Bool.and_eq_true, List.all_eq_true, Bool.not_eq_true'] at free
  exact ⟨free.1, fun word => free.2 word (by cases word <;> decide)⟩

def reservedWords : List String := ["repeated", "required", "optional", "map", "oneof", "message", "enum"]

def firstPart (type : String) : List Char := type.toList.takeWhile (· ≠ '.')

theorem intercalate_chars (first : String) (more : List String) :
    (String.intercalate "." (first :: more)).toList = first.toList ++ more.flatMap fun part => '.' :: part.toList := by
  induction more generalizing first with
  | nil => simp
  | cons next more ih =>
      rw [String.intercalate_cons_cons, String.toList_append, ih, List.flatMap_cons, String.toList_append]
      simp

theorem dotted_parts (type : String) (dotted : Dotted type) : ∃ first more, IsName first ∧ (∀ part ∈ more, IsName part) ∧
    type = String.intercalate "." (first :: more) ∧ firstPart type = first.toList := by
  obtain ⟨parts, some, named, rfl⟩ := dotted
  cases parts with
  | nil => exact absurd rfl some
  | cons first more =>
      have whole := Schema.not_in_name first.toList (named first List.mem_cons_self) '.' (by decide)
      refine ⟨first, more, named first List.mem_cons_self, fun part member => named part (List.mem_cons_of_mem _ member),
        rfl, ?_⟩
      have plain : ∀ c ∈ first.toList, decide (c ≠ '.') = true := by
        intro c member
        exact decide_eq_true fun same => whole (same ▸ member)
      rw [firstPart, intercalate_chars, List.takeWhile_append_of_pos plain]
      cases more with
      | nil => simp
      | cons part more => simp

section
variable (machine : Machine) (line : Nat) (outcome : Outcome)

theorem reads_any_name (next : Machine) (name : String) (stop : Char) (rest : List Char) (named : IsName name)
    (ends : isNamePart stop = false) (free : machine.point.takesAnyName)
    (taken : ∀ column, machine.step ⟨.name, name, ⟨line, column⟩⟩ = some next)
    (further : Reads next line (stop :: rest) outcome) : Reads machine line (name.toList ++ stop :: rest) outcome := by
  obtain ⟨names, plain⟩ := takes_any_name machine.point free
  refine reads_name machine line outcome next name stop rest named ends names (fun word known => ?_) taken further
  rw [plain word] at known
  cases known

theorem reads_more_parts (use : TypeUse) (parts : Parts) (more : List String) (stop : Char) (rest : List Char)
    (named : ∀ part ∈ more, IsName part) (ends : isNamePart stop = false)
    (further : Reads { machine with point := .typeNext use (more.reverse ++ parts) } line (stop :: rest) outcome) :
    Reads { machine with point := .typeNext use parts } line
      (more.flatMap (fun part => '.' :: part.toList) ++ stop :: rest) outcome := by
  induction more generalizing parts with
  | nil => exact further
  | cons part more ih =>
      obtain ⟨next, after, split, nextEnds⟩ : ∃ next after,
          more.flatMap (fun part => '.' :: part.toList) ++ stop :: rest = next :: after ∧ isNamePart next = false := by
        cases more with
        | nil => exact ⟨stop, rest, rfl, ends⟩
        | cons => exact ⟨'.', _, rfl, by decide⟩
      have later := ih (part :: parts) (fun other member => named other (List.mem_cons_of_mem _ member))
        (by simpa using further)
      rw [List.flatMap_cons, List.cons_append, List.cons_append, List.append_assoc]
      rw [split] at later ⊢
      refine reads_mark _ _ _ { machine with point := .typePart use parts } .dot _ rfl (fun _ _ => rfl) ?_
      exact reads_any_name _ _ _ _ part next after (named part List.mem_cons_self) nextEnds rfl (fun _ => rfl) later

theorem reads_dotted (base : Machine) (use : TypeUse) (type : String) (stop : Char) (rest : List Char)
    (dotted : Dotted type) (ends : isNamePart stop = false)
    (starts : ∀ first next after, IsName first → firstPart type = first.toList → isNamePart next = false →
      Reads { base with point := .typeNext use [first] } line (next :: after) outcome →
      Reads machine line (first.toList ++ next :: after) outcome)
    (further : ∀ parts, Parts.text parts = type →
      Reads { base with point := .typeNext use parts } line (stop :: rest) outcome) :
    Reads machine line (type.toList ++ stop :: rest) outcome := by
  obtain ⟨first, more, firstNamed, named, same, begins⟩ := dotted_parts type dotted
  have whole := further (more.reverse ++ [first]) (by simp [Parts.text, same])
  have later := reads_more_parts base line outcome use [first] more stop rest named ends whole
  rw [same, intercalate_chars, List.append_assoc]
  cases more with
  | nil => exact starts first stop rest firstNamed begins ends later
  | cons part more => exact starts first '.' _ firstNamed begins (by decide) later

theorem reads_type_part (use : TypeUse) (type : String) (stop : Char) (rest : List Char) (dotted : Dotted type)
    (ends : isNamePart stop = false)
    (further : ∀ parts, Parts.text parts = type →
      Reads { machine with point := .typeNext use parts } line (stop :: rest) outcome) :
    Reads { machine with point := .typePart use [] } line (type.toList ++ stop :: rest) outcome := by
  refine reads_dotted _ line outcome machine use type stop rest dotted ends ?_ further
  intro first next after named _ nextEnds later
  exact reads_any_name _ _ _ _ first next after named nextEnds rfl (fun _ => rfl) later

def optionChars (packed : Bool) : List Char := if packed then " [packed=true]".toList else []

theorem reads_field_end (next : Machine) (head : FieldHead) (name : String) (nameLine n : Nat) (packed : Bool)
    (rest : List Char) (added : machine.addField ⟨name, n, head.types, head.label, nameLine⟩ = some next)
    (further : Reads next line rest outcome) :
    Reads { machine with point := .fieldEqual head name nameLine } line
      (' ' :: '=' :: ' ' :: (Decimal.digits n ++ (optionChars packed ++ ';' :: rest))) outcome := by
  have value : Decimal.valueOf (Decimal.numeral n).toList = n := by
    rw [Decimal.numeral, String.toList_ofList, Decimal.value_of_digits]
  apply reads_space
  refine reads_mark _ _ _ { machine with point := .fieldNumber head name nameLine } .equal _ rfl (fun _ _ => rfl) ?_
  apply reads_space
  let field : FieldDeclaration := ⟨name, n, head.types, head.label, nameLine⟩
  have number : ∀ place, { machine with point := .fieldNumber head name nameLine : Machine }.step
      ⟨.number, Decimal.numeral n, place⟩ = some { machine with point := .fieldOptions field } := by
    intro place
    simp only [Machine.step, value]
    rfl
  cases packed with
  | false =>
      refine reads_number _ _ _ { machine with point := .fieldOptions field } n ';' _ (by decide) rfl number ?_
      exact reads_mark _ _ _ next .semicolon _ rfl (fun _ _ => added) further
  | true =>
      refine reads_number _ _ _ { machine with point := .fieldOptions field } n ' ' _ (by decide) rfl number ?_
      apply reads_space
      refine reads_mark _ _ _ { machine with point := .optionName field } .leftBracket _ rfl (fun _ _ => rfl) ?_
      refine reads_any_name _ _ _ { machine with point := .optionEqual field } "packed" '=' _ (by decide) (by decide) rfl
        (fun _ => rfl) ?_
      refine reads_mark _ _ _ { machine with point := .optionValue field } .equal _ rfl (fun _ _ => rfl) ?_
      refine reads_any_name _ _ _ { machine with point := .optionNext field } "true" ']' _ (by decide) (by decide) rfl
        (fun _ => rfl) ?_
      refine reads_mark _ _ _ { machine with point := .fieldEnd field } .rightBracket _ rfl (fun _ _ => rfl) ?_
      exact reads_mark _ _ _ next .semicolon _ rfl (fun _ _ => added) further

end

structure PrintableField (layout : Layout) (message : String) (place : FieldPlace) (field : Field) : Prop where
  named : IsName field.name
  numbered : ∃ n : Nat, field.id = some (n : Int)
  dotted : ∀ type ∈ printedTypes layout message field, Dotted type
  first : ∀ type ∈ printedTypes layout message field, firstPart type ∉ reservedWords.map String.toList
  single : place = .inOneof → field.isMap = false

inductive Spot where
  | inMessage
  | opensGroup
  | inGroup

namespace Spot

def place : Spot → FieldPlace
  | inMessage => .alone
  | opensGroup | inGroup => .inOneof

def point : Spot → Point
  | inMessage => .messageBody
  | opensGroup => .oneofStart
  | inGroup => .oneofBody

def words : Spot → List Keyword
  | opensGroup => [.repeatedWord, .requiredWord, .optionalWord]
  | inMessage | inGroup =>
    [.repeatedWord, .requiredWord, .optionalWord, .mapWord, .oneofWord, .messageWord, .enumWord]

end Spot

theorem spot_words (spot : Spot) (word : Keyword) :
    spot.point.accepted.contains (.keyword word) = true ↔ word ∈ spot.words := by
  cases spot <;> cases word <;> decide

theorem spot_words_reserved (spot : Spot) (word : Keyword) (known : word ∈ spot.words) : word.spelling ∈ reservedWords := by
  revert known
  cases spot <;> cases word <;> decide

structure LetteredField (layout : Layout) (message : String) (field : Field) : Prop where
  named : IsName field.name
  numbered : ∃ n : Nat, field.id = some (n : Int)
  dotted : ∀ type ∈ printedTypes layout message field, Dotted type

structure LegibleField (layout : Layout) (message : String) (spot : Spot) (field : Field) : Prop where
  -- What a spot asks of a field besides: that the line begins with its label or with no word of
  -- the language, and that a group holds no map.
  plain : keepsRepeated spot.place field = false → ∀ type, printedTypes layout message field = [type] →
    ∀ word ∈ spot.words, firstPart type ≠ word.spelling.toList
  single : spot.place = .inOneof → ∀ key value, printedTypes layout message field ≠ [key, value]

inductive FieldStart : Spot → Machine → Prop where
  | message (name : String) (line : Nat) (members : List Declaration) (outer : List Frame) (done : List Declaration) :
      FieldStart .inMessage ⟨.messageBody, .message name line members :: outer, done⟩
  | oneof (spot : Spot) (grouped : spot.place = .inOneof) (name : String) (line : Nat) (fields : List FieldDeclaration)
      (message : String) (messageLine : Nat) (members : List Declaration) (outer : List Frame) (done : List Declaration) :
      FieldStart spot ⟨spot.point, .oneof name line fields :: .message message messageLine members :: outer, done⟩

theorem start_point (spot : Spot) (machine : Machine) (start : FieldStart spot machine) : machine.point = spot.point := by
  cases start <;> rfl

theorem start_terminals (spot : Spot) (machine : Machine) (start : FieldStart spot machine) :
    machine.point.accepted.contains .name ∧ machine.point.accepted.contains (.keyword .repeatedWord) ∧
      (∀ part column, machine.step ⟨.name, part, column⟩ =
        some { machine with point := .typeNext (.field none) [part] }) ∧
      ∀ text column, machine.step ⟨.keyword .repeatedWord, text, column⟩ =
        some { machine with point := .typePart (.field (some .repeated)) [] } := by
  cases start with
  | message => exact ⟨rfl, rfl, fun _ _ => rfl, fun _ _ => rfl⟩
  | oneof spot grouped =>
      cases spot with
      | inMessage => cases grouped
      | opensGroup => exact ⟨rfl, rfl, fun _ _ => rfl, fun _ _ => rfl⟩
      | inGroup => exact ⟨rfl, rfl, fun _ _ => rfl, fun _ _ => rfl⟩

theorem start_map (machine : Machine) (start : FieldStart .inMessage machine) :
    machine.point.accepted.contains .name ∧ machine.point.accepted.contains (.keyword .mapWord) ∧
      ∀ text column, machine.step ⟨.keyword .mapWord, text, column⟩ = some { machine with point := .mapOpen } := by
  cases start with
  | message => exact ⟨rfl, rfl, fun _ _ => rfl⟩
  | oneof _ grouped => cases grouped

theorem printed_types_cases (layout : Layout) (message : String) (field : Field) :
    (∃ type, printedTypes layout message field = [type]) ∨
      field.isMap ∧ ∃ key value, printedTypes layout message field = [key, value] := by
  unfold printedTypes Field.isMap
  cases field.type with
  | none => exact .inl ⟨_, rfl⟩
  | some type =>
      cases field.mapTypes with
      | none => exact .inl ⟨_, rfl⟩
      | some types => exact .inr ⟨rfl, _, _, rfl⟩

theorem printable_lettered (layout : Layout) (message : String) (place : FieldPlace) (field : Field)
    (printable : PrintableField layout message place field) : LetteredField layout message field :=
  ⟨printable.named, printable.numbered, printable.dotted⟩

theorem printable_legible (layout : Layout) (message : String) (spot : Spot) (field : Field)
    (printable : PrintableField layout message spot.place field) : LegibleField layout message spot field where
  plain := by
    intro _ type printed word known same
    refine printable.first type (printed ▸ List.mem_cons_self) (same ▸ List.mem_map_of_mem ?_)
    exact spot_words_reserved spot word known
  single := by
    intro grouped key value both
    rcases printed_types_cases layout message field with ⟨type, one⟩ | ⟨map, _⟩
    · rw [one] at both
      cases both
    · rw [printable.single grouped] at map
      cases map

theorem field_line_chars (layout : Layout) (message : String) (place : FieldPlace) (field : Field) (n : Nat)
    (numbered : field.id = some (n : Int)) : (fieldLine layout message place field).toList =
      (if keepsRepeated place field then "repeated ".toList else []) ++
        ((typeText (printedTypes layout message field)).toList ++ ' ' :: (field.name.toList ++
          ' ' :: '=' :: ' ' :: (Decimal.digits n ++ (optionChars (keepsPacked place field) ++ [';'])))) := by
  have number : (Schema.intOr field.id).toList = Decimal.digits n := by
    simp [numbered, Schema.intOr, Decimal.intNumeral, Decimal.intDigits]
  simp only [fieldLine, String.toList_append, number]
  cases keepsRepeated place field <;> cases keepsPacked place field <;> simp [optionChars]

section
variable (machine : Machine) (line : Nat) (outcome : Outcome)

theorem reads_field_name (next : Machine) (point : Point) (head : FieldHead) (name : String) (n : Nat) (packed : Bool)
    (rest : List Char) (named : IsName name) (free : point.takesAnyName)
    (taken : ∀ column, { machine with point := point : Machine }.step ⟨.name, name, ⟨line, column⟩⟩ =
      some { machine with point := .fieldEqual head name line })
    (added : machine.addField ⟨name, n, head.types, head.label, line⟩ = some next)
    (further : Reads next line rest outcome) :
    Reads { machine with point := point } line (' ' :: (name.toList ++
      ' ' :: '=' :: ' ' :: (Decimal.digits n ++ (optionChars packed ++ ';' :: rest)))) outcome := by
  apply reads_space
  refine reads_any_name _ line outcome _ name ' ' _ named (by decide) free taken ?_
  exact reads_field_end machine line outcome next head name line n packed rest added further

theorem reads_field_type (next : Machine) (label : Option Label) (parts : Parts) (type name : String) (n : Nat)
    (packed : Bool) (rest : List Char) (named : IsName name) (same : parts.text = type)
    (added : machine.addField ⟨name, n, [type], label, line⟩ = some next) (further : Reads next line rest outcome) :
    Reads { machine with point := .typeNext (.field label) parts } line (' ' :: (name.toList ++
      ' ' :: '=' :: ' ' :: (Decimal.digits n ++ (optionChars packed ++ ';' :: rest)))) outcome := by
  refine reads_field_name machine line outcome next _ ⟨label, [type]⟩ name n packed rest named rfl ?_ added further
  exact fun _ => same ▸ rfl

theorem reads_map_types (key value : String) (rest : List Char) (keyDotted : Dotted key) (valueDotted : Dotted value)
    (further : Reads { machine with point := .mapName [key, value] } line rest outcome) :
    Reads { machine with point := .mapOpen } line
      ('<' :: (key.toList ++ ',' :: ' ' :: (value.toList ++ '>' :: rest))) outcome := by
  refine reads_mark _ _ _ { machine with point := .typePart .mapKey [] } .less _ rfl (fun _ _ => rfl) ?_
  refine reads_type_part machine line outcome .mapKey key ',' _ keyDotted (by decide) fun parts same => ?_
  refine reads_mark _ _ _ { machine with point := .typePart (.mapValue key) [] } .comma _ rfl (fun _ _ => same ▸ rfl) ?_
  apply reads_space
  refine reads_type_part machine line outcome (.mapValue key) value '>' _ valueDotted (by decide) fun parts same => ?_
  exact reads_mark _ _ _ { machine with point := .mapName [key, value] } .more _ rfl (fun _ _ => same ▸ rfl) further

theorem reads_single_type (next : Machine) (layout : Layout) (message : String) (spot : Spot) (field : Field)
    (type : String) (n : Nat) (rest : List Char) (start : FieldStart spot machine)
    (lettered : LetteredField layout message field) (legible : LegibleField layout message spot field)
    (single : printedTypes layout message field = [type])
    (added : machine.addField ⟨field.name, n, [type], if keepsRepeated spot.place field then some .repeated else none,
      line⟩ = some next) (further : Reads next line rest outcome) :
    Reads machine line ((if keepsRepeated spot.place field then "repeated ".toList else []) ++ (type.toList ++ ' ' ::
      (field.name.toList ++ ' ' :: '=' :: ' ' ::
        (Decimal.digits n ++ (optionChars (keepsPacked spot.place field) ++ ';' :: rest))))) outcome := by
  have dotted : Dotted type := lettered.dotted type (by simp [single])
  obtain ⟨names, labels, named, labelled⟩ := start_terminals spot machine start
  cases repeated : keepsRepeated spot.place field with
  | false =>
      rw [repeated] at added
      refine reads_dotted machine line outcome machine (.field none) type ' ' _ dotted (by decide) ?_ fun parts same =>
        reads_field_type machine line outcome next none parts type field.name n _ rest lettered.named same added further
      intro part stop after isName begins ends later
      refine reads_name machine line outcome _ part stop after isName ends names (fun word known same => ?_)
        (fun _ => named part _) later
      rw [start_point spot machine start] at known
      exact legible.plain repeated type single word ((spot_words spot word).mp known) (begins ▸ same ▸ rfl)
  | true =>
      rw [repeated] at added
      refine reads_word machine line outcome { machine with point := .typePart (.field (some .repeated)) [] }
        .repeatedWord ' ' _ (by decide) names labels labelled ?_
      apply reads_space
      exact reads_type_part machine line outcome _ type ' ' _ dotted (by decide) fun parts same =>
        reads_field_type machine line outcome next (some .repeated) parts type field.name n _ rest lettered.named same
          added further

theorem reads_legible_field (next : Machine) (layout : Layout) (message : String) (spot : Spot) (field : Field)
    (rest : List Char) (start : FieldStart spot machine) (lettered : LetteredField layout message field)
    (legible : LegibleField layout message spot field)
    (added : machine.addField (fieldDeclaration layout message spot.place line field) = some next)
    (further : Reads next (line + 1) rest outcome) :
    Reads machine line ((fieldLine layout message spot.place field).toList ++ '\n' :: rest) outcome := by
  obtain ⟨n, numbered⟩ := lettered.numbered
  have ended : Reads next line ('\n' :: rest) outcome := reads_line_feed next line outcome rest further
  have number : (field.id.getD 0).toNat = n := by rw [numbered]; rfl
  rw [fieldDeclaration, number] at added
  rw [field_line_chars layout message spot.place field n numbered]
  rcases printed_types_cases layout message field with ⟨type, single⟩ | ⟨map, key, value, both⟩
  · rw [single] at added ⊢
    have text : typeText [type] = type := by simp [typeText]
    simp only [text, List.append_assoc, List.cons_append, List.nil_append]
    exact reads_single_type machine line outcome next layout message spot field type n _ start lettered legible single
      added ended
  · have alone : spot = .inMessage := by
      cases spot with
      | inMessage => rfl
      | opensGroup | inGroup => exact absurd both (legible.single rfl key value)
    subst alone
    have plain : keepsRepeated Spot.inMessage.place field = false := by simp [keepsRepeated, map]
    rw [both, plain] at added
    rw [both, plain]
    have text : (typeText [key, value]).toList = Keyword.mapWord.spelling.toList ++
        '<' :: (key.toList ++ ',' :: ' ' :: (value.toList ++ ['>'])) := by
      simp [typeText, Keyword.spelling]
    simp only [text, List.append_assoc, List.cons_append, List.nil_append, if_neg Bool.false_ne_true]
    obtain ⟨names, maps, taken⟩ := start_map machine start
    refine reads_word machine line outcome { machine with point := .mapOpen } .mapWord '<' _ (by decide) names maps taken ?_
    refine reads_map_types machine line outcome key value _ (lettered.dotted key (by simp [both]))
      (lettered.dotted value (by simp [both])) ?_
    exact reads_field_name machine line outcome next (.mapName [key, value]) ⟨none, [key, value]⟩ field.name n _ _
      lettered.named rfl (fun _ => rfl) added ended

end

end SchemaRecovery.Proto
