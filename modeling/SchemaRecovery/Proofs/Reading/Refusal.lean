import SchemaRecovery.Proofs.Reading.Field

set_option autoImplicit false

namespace SchemaRecovery.Proto

open Schema (Field IsName isNameText)

inductive AfterWord : Point → Prop where
  | label (label : Label) : AfterWord (.typePart (.field (some label)) [])
  | map : AfterWord .mapOpen
  | block (kind : BlockKind) : AfterWord (.blockName kind)

theorem step_word (spot : Spot) (machine : Machine) (start : FieldStart spot machine) (word : Keyword)
    (known : word ∈ spot.words) :
    (∀ text place, machine.step ⟨.keyword word, text, place⟩ = none) ∨
      ∃ point, AfterWord point ∧ ∀ text place, machine.step ⟨.keyword word, text, place⟩ =
        some { machine with point := point } := by
  cases start with
  | message =>
      cases word with
      | syntaxWord | packageWord => exact absurd known (by decide)
      | repeatedWord | requiredWord | optionalWord => exact .inr ⟨_, .label _, fun _ _ => rfl⟩
      | mapWord => exact .inr ⟨_, .map, fun _ _ => rfl⟩
      | oneofWord | messageWord | enumWord => exact .inr ⟨_, .block _, fun _ _ => rfl⟩
  | oneof spot grouped =>
      cases spot with
      | inMessage => cases grouped
      | opensGroup =>
          cases word with
          | repeatedWord | requiredWord | optionalWord => exact .inr ⟨_, .label _, fun _ _ => rfl⟩
          | syntaxWord | packageWord | mapWord | oneofWord | messageWord | enumWord => exact absurd known (by decide)
      | inGroup =>
          cases word with
          | syntaxWord | packageWord => exact absurd known (by decide)
          | repeatedWord | requiredWord | optionalWord => exact .inr ⟨_, .label _, fun _ _ => rfl⟩
          | mapWord | oneofWord | messageWord | enumWord => exact .inl fun _ _ => rfl

theorem lexeme_at_less_only (c : Char) (rest : List Char) (start : isNameStart c) :
    lexemeAt [.mark .less] (c :: rest) = none := by
  have other : c ≠ '<' := by
    rintro rfl
    exact absurd start (by decide)
  have word : wordAt [.mark .less] (c :: rest) = none := rfl
  rw [lexeme_at_word _ c rest start, word, Option.none_or, markAt]
  simp [Mark.all, Mark.char, other.symm]

section
variable (machine : Machine) (line : Nat) (outcome : Outcome) (faulty : outcome.Faulty)
include faulty

theorem refuses_equal (point : Point) (rest : List Char)
    (missing : lexemeAt point.accepted ('=' :: rest) = none) :
    Reads { machine with point := point } line (' ' :: '=' :: rest) outcome := by
  apply reads_space
  exact reads_unfound _ line outcome '=' rest faulty missing (by decide)

theorem refuses_dot (point : Point) (after : AfterWord point) (rest : List Char) :
    Reads { machine with point := point } line ('.' :: rest) outcome := by
  refine reads_unfound _ line outcome '.' rest faulty ?_ (by decide)
  cases after <;> rfl

theorem refuses_name (point : Point) (after : AfterWord point) (name : String) (named : IsName name)
    (rest : List Char) :
    Reads { machine with point := point } line (' ' :: (name.toList ++ ' ' :: '=' :: rest)) outcome := by
  apply reads_space
  cases after with
  | label label =>
      refine reads_any_name _ line outcome { machine with point := .typeNext (.field (some label)) [name] } name ' ' _
        named (by decide) rfl (fun _ => rfl) ?_
      exact refuses_equal machine line outcome faulty _ rest rfl
  | block kind =>
      refine reads_any_name _ line outcome { machine with point := .blockOpen kind name line } name ' ' _ named
        (by decide) rfl (fun _ => rfl) ?_
      exact refuses_equal machine line outcome faulty _ rest rfl
  | map =>
      cases start : name.toList with
      | nil => rw [IsName, start] at named; cases named
      | cons c text =>
          rw [IsName, start, isNameText, Bool.and_eq_true] at named
          refine reads_unfound _ line outcome c _ faulty (lexeme_at_less_only c _ named.1) ?_
          exact name_part_solid c (Schema.name_start_part c named.1)

theorem refuses_word (spot : Spot) (start : FieldStart spot machine) (word : Keyword) (known : word ∈ spot.words)
    (stop : Char) (rest : List Char) (ends : isNamePart stop = false)
    (behind : ∀ point, AfterWord point → Reads { machine with point := point } line (stop :: rest) outcome) :
    Reads machine line (word.spelling.toList ++ stop :: rest) outcome := by
  have names := (start_terminals spot machine start).1
  have accepted : machine.point.accepted.contains (.keyword word) := by
    rw [start_point spot machine start]
    exact (spot_words spot word).mpr known
  rcases step_word spot machine start word known with stuck | ⟨point, after, taken⟩
  · have found := lexeme_at_name machine.point.accepted word.spelling.toList rest stop (spelling_named word) ends names
    rw [classify_word _ word accepted] at found
    exact reads_untaken machine line outcome ⟨.keyword word, word.spelling.toList⟩ _ faulty found
      (name_solid _ (spelling_named word)) fun _ => stuck _ _
  · exact reads_word machine line outcome _ word stop rest ends names accepted taken (behind point after)

theorem refuses_type (spot : Spot) (start : FieldStart spot machine) (word : Keyword) (known : word ∈ spot.words)
    (type name : String) (dotted : Dotted type) (begins : firstPart type = word.spelling.toList) (named : IsName name)
    (rest : List Char) : Reads machine line (type.toList ++ ' ' :: (name.toList ++ ' ' :: '=' :: rest)) outcome := by
  obtain ⟨first, more, _, _, rfl, same⟩ := dotted_parts type dotted
  rw [intercalate_chars, ← same, begins, List.append_assoc]
  cases more with
  | nil =>
      exact refuses_word machine line outcome faulty spot start word known ' ' _ (by decide) fun point after =>
        refuses_name machine line outcome faulty point after name named rest
  | cons part more =>
      exact refuses_word machine line outcome faulty spot start word known '.' _ (by decide) fun point after =>
        refuses_dot machine line outcome faulty point after _

theorem refuses_map (spot : Spot) (grouped : spot.place = .inOneof) (start : FieldStart spot machine)
    (rest : List Char) : Reads machine line (Keyword.mapWord.spelling.toList ++ '<' :: rest) outcome := by
  -- First in a group the word is taken for a type, and behind another field it is a word that a
  -- group does not know.
  have plain := (start_terminals spot machine start).2.2.1
  cases start with
  | message => cases grouped
  | oneof _ _ name nameLine fields owner ownerLine members outer done =>
      cases spot with
      | inMessage => cases grouped
      | opensGroup =>
          refine reads_name _ line outcome _ "map" '<' rest (by decide) (by decide) rfl ?_ (fun _ => plain _ _) ?_
          · intro word known
            have listed := (spot_words .opensGroup word).mp known
            revert listed
            cases word <;> decide
          · exact reads_unfound _ line outcome '<' rest faulty rfl (by decide)
      | inGroup =>
          have found : lexemeAt bodyTerminals (Keyword.mapWord.spelling.toList ++ '<' :: rest) =
              some ⟨.keyword .mapWord, Keyword.mapWord.spelling.toList⟩ := by
            rw [lexeme_at_name bodyTerminals _ rest '<' (by decide) (by decide) rfl, classify_word _ _ rfl]
          exact reads_untaken _ line outcome ⟨.keyword .mapWord, _⟩ _ faulty found (name_solid _ (by decide)) fun _ => rfl

theorem refuses_field (layout : Layout) (message : String) (spot : Spot) (field : Field) (rest : List Char)
    (start : FieldStart spot machine) (lettered : LetteredField layout message field)
    (illegible : ¬ LegibleField layout message spot field) :
    Reads machine line ((fieldLine layout message spot.place field).toList ++ '\n' :: rest) outcome := by
  obtain ⟨n, numbered⟩ := lettered.numbered
  rw [field_line_chars layout message spot.place field n numbered]
  rcases printed_types_cases layout message field with ⟨type, single⟩ | ⟨map, key, value, both⟩
  · obtain ⟨unlabelled, word, known, begins⟩ : keepsRepeated spot.place field = false ∧
        ∃ word ∈ spot.words, firstPart type = word.spelling.toList := by
      refine Classical.byContradiction fun none => illegible ⟨?_, ?_⟩
      · intro unlabelled other printed word known begins
        rw [single] at printed
        cases printed
        exact none ⟨unlabelled, word, known, begins⟩
      · intro _ key value both
        rw [single] at both
        cases both
    have text : typeText [type] = type := by simp [typeText]
    rw [single, text, unlabelled]
    simp only [if_neg Bool.false_ne_true, List.append_assoc, List.cons_append, List.nil_append]
    exact refuses_type machine line outcome faulty spot start word known type field.name
      (lettered.dotted type (by simp [single])) begins lettered.named _
  · have grouped : spot.place = .inOneof := by
      cases place : spot.place with
      | inOneof => rfl
      | alone =>
          refine absurd ⟨fun _ type single => ?_, fun same => ?_⟩ illegible
          · rw [both] at single
            cases single
          · rw [place] at same
            cases same
    have plain : keepsRepeated spot.place field = false := by simp [keepsRepeated, map]
    have text : (typeText [key, value]).toList = Keyword.mapWord.spelling.toList ++
        '<' :: (key.toList ++ ',' :: ' ' :: (value.toList ++ ['>'])) := by
      simp [typeText, Keyword.spelling]
    rw [both, text, plain]
    simp only [if_neg Bool.false_ne_true, List.append_assoc, List.cons_append, List.nil_append]
    exact refuses_map machine line outcome faulty spot grouped start _

omit faulty

theorem reads_field (next : Machine) (layout : Layout) (message : String) (spot : Spot) (field : Field)
    (rest : List Char) (start : FieldStart spot machine) (lettered : LetteredField layout message field)
    (added : machine.addField (fieldDeclaration layout message spot.place line field) = some next)
    (further : LegibleField layout message spot field → Reads next (line + 1) rest outcome)
    (refused : ¬ LegibleField layout message spot field → outcome.Faulty) :
    Reads machine line ((fieldLine layout message spot.place field).toList ++ '\n' :: rest) outcome := by
  by_cases legible : LegibleField layout message spot field
  · exact reads_legible_field machine line outcome next layout message spot field rest start lettered legible added
      (further legible)
  · exact refuses_field machine line outcome (refused legible) layout message spot field rest start lettered legible

end

end SchemaRecovery.Proto
