import SchemaRecovery.Proofs.Check.Issues
import SchemaRecovery.Proofs.Check.Report
import Mathlib.Algebra.GroupWithZero.Nat
import Mathlib.Data.Finset.Dedup
import Mathlib.Data.Finset.Card

set_option autoImplicit false

namespace SchemaRecovery.Proto

def IsLine (text line : List Char) : Prop :=
  ∃ before after, text = before ++ line ++ after ∧ '\n' ∉ line ∧ (before = [] ∨ ∃ start, before = start ++ ['\n']) ∧
    (after = [] ∨ ∃ rest, after = '\n' :: rest)

def MentionsEntity (line : List Char) : Prop :=
  ∃ indent c rest, line = indent ++ entityMark.toList ++ c :: rest ∧ (∀ d ∈ indent, d = ' ' ∨ d = '\t') ∧
    Text.isBlank c = false

def Reaches (declarations : List Declaration) (scope : List String) (type : String) : Prop :=
  ∃ outer path, outer <+: scope ∧ Declares declarations path ∧ fullName outer type = String.intercalate "." path

def numbersOf (fields : List FieldDeclaration) : List Nat := fields.map (·.number)

structure Accepted (declarations : List Declaration) (scope : List String) (fields : List FieldDeclaration) : Prop where
  numbers : (numbersOf fields).Nodup
  labels : ∀ field ∈ fields, field.label ≠ some .required ∧ field.label ≠ some .optional
  types : ∀ field ∈ fields, ∀ type ∈ field.types,
    type ≠ unresolvedType ∧ (type ∈ scalarTypes ∨ Reaches declarations scope type)

def Issue.isRepeat (issue : Issue) : Bool := issue.kind = "duplicate_field_number"

section Lines

theorem whole_line (line : List Char) (whole : '\n' ∉ line) : feedLines line = [line] := by
  induction line with
  | nil => rfl
  | cons c line ih =>
      rw [List.mem_cons, not_or] at whole
      rw [feedLines, if_neg (Ne.symm whole.1), ih whole.2]

theorem is_line_whole (text line : List Char) (whole : '\n' ∉ text) : IsLine text line ↔ line = text := by
  constructor
  · rintro ⟨before, after, rfl, _, start, stop⟩
    simp only [List.mem_append, not_or] at whole
    obtain rfl : before = [] := start.resolve_right fun ⟨_, same⟩ => whole.1.1 (by simp [same])
    obtain rfl : after = [] := stop.resolve_right fun ⟨_, same⟩ => whole.2 (by simp [same])
    simp
  · rintro rfl
    exact ⟨[], [], by simp, whole, .inl rfl, .inl rfl⟩

theorem is_line_append (first rest line : List Char) (whole : '\n' ∉ first) :
    IsLine (first ++ '\n' :: rest) line ↔ line = first ∨ IsLine rest line := by
  constructor
  · rintro ⟨before, after, same, unbroken, rfl | ⟨start, rfl⟩, stop⟩
    · left
      rw [List.nil_append] at same
      rcases stop with rfl | ⟨more, rfl⟩
      · rw [List.append_nil] at same
        exact absurd (same ▸ List.mem_append_right first List.mem_cons_self) unbroken
      · have lines := congrArg feedLines same
        rw [feed_lines_append first rest whole, feed_lines_append line more unbroken] at lines
        exact (List.cons.inj lines).1.symm
    · right
      rw [List.append_assoc, List.append_assoc, List.singleton_append] at same
      rcases List.append_eq_append_iff.mp same with ⟨between, rfl, later⟩ | ⟨between, rfl, later⟩
      · cases between with
        | nil => exact ⟨[], after, by simpa using later, unbroken, .inl rfl, stop⟩
        | cons c between =>
            obtain ⟨rfl, rfl⟩ := List.cons.inj later
            exact ⟨between ++ ['\n'], after, by simp, unbroken, .inr ⟨between, rfl⟩, stop⟩
      · cases between with
        | nil => exact ⟨[], after, by simpa using later.symm, unbroken, .inl rfl, stop⟩
        | cons c between =>
            obtain ⟨rfl, _⟩ := List.cons.inj later
            exact absurd (by simp) whole
  · rintro (rfl | ⟨before, after, rfl, unbroken, start, stop⟩)
    · exact ⟨[], '\n' :: rest, by simp, whole, .inl rfl, .inr ⟨rest, rfl⟩⟩
    · refine ⟨first ++ '\n' :: before, after, by simp, unbroken, .inr ?_, stop⟩
      rcases start with rfl | ⟨start, rfl⟩
      · exact ⟨first, rfl⟩
      · exact ⟨first ++ '\n' :: start, by simp⟩

theorem mem_feed_lines_iff (text line : List Char) : line ∈ feedLines text ↔ IsLine text line := by
  by_cases broken : '\n' ∈ text
  · obtain ⟨first, rest, same, whole⟩ := List.eq_append_cons_of_mem broken
    have shorter : rest.length < text.length := by simp [same]; omega
    rw [same, feed_lines_append first rest whole, is_line_append first rest line whole, List.mem_cons,
      mem_feed_lines_iff rest line]
  · rw [whole_line text broken, is_line_whole text line broken, List.mem_singleton]
termination_by text.length

theorem unknown_entity_iff (line : List Char) : unknownEntity? line = none ↔ ¬ MentionsEntity line := by
  constructor
  · rintro none ⟨indent, c, rest, rfl, blank, solid⟩
    have spaces : ∀ d ∈ indent, isIndentChar d = true := fun d member => by simpa [isIndentChar] using blank d member
    have start : (indent ++ entityMark.toList ++ c :: rest).dropWhile isIndentChar = entityMark.toList ++ c :: rest := by
      rw [List.append_assoc, List.dropWhile_append_of_pos spaces]
      rfl
    have marked : entityMark.toList.isPrefixOf (entityMark.toList ++ c :: rest) = true :=
      List.isPrefixOf_iff_prefix.mpr (List.prefix_append _ _)
    rw [unknownEntity?, start, if_pos marked, ← String.length_toList, List.drop_left] at none
    simp [solid] at none
  · intro unmentioned
    rw [unknownEntity?]
    split
    · rename_i marked
      obtain ⟨rest, same⟩ := List.isPrefixOf_iff_prefix.mp marked
      have whole : line = line.takeWhile isIndentChar ++ entityMark.toList ++ rest := by
        rw [List.append_assoc, same, List.takeWhile_append_dropWhile]
      rw [← same, ← String.length_toList, List.drop_left]
      cases rest with
      | nil => rfl
      | cons c rest =>
          cases solid : Text.isBlank c with
          | true => simp [solid]
          | false =>
              refine absurd ⟨_, c, rest, whole, fun d member => ?_, solid⟩ unmentioned
              simpa [isIndentChar] using List.mem_takeWhile_imp member
    · rfl

theorem unknown_entities_nil_iff (text : String) :
    unknownEntities text = [] ↔ ∀ line, IsLine text.toList line → ¬ MentionsEntity line := by
  have said := unknown_entities_said text
  rw [← List.map_eq_nil_iff (f := Issue.said), said, List.map_eq_nil_iff, mentioned, List.filterMap_eq_nil_iff]
  simp only [mem_feed_lines_iff, unknown_entity_iff]

end Lines

section Fields
variable (declarations : List Declaration) (scope : List String)

theorem label_accepted_iff (owner : String) (field : FieldDeclaration) :
    labelDefects owner field = [] ↔ field.label ≠ some .required ∧ field.label ≠ some .optional := by
  unfold labelDefects
  cases field.label with
  | none => simp
  | some label => cases label <;> simp [Label.isAllowed]

theorem reaches_iff (type : String) :
    isDeclared (declaredInAll [] declarations) scope type = true ↔ Reaches declarations scope type := by
  simp only [is_declared_iff, mem_declared_iff, List.nil_append, Reaches]
  constructor
  · rintro ⟨outer, start, path, declared, same⟩
    exact ⟨outer, path, start, declared, same⟩
  · rintro ⟨outer, path, start, declared, same⟩
    exact ⟨outer, start, path, declared, same⟩

theorem type_accepted_iff (owner field type : String) :
    typeDefects (declaredInAll [] declarations) scope owner field type = [] ↔
      type ≠ unresolvedType ∧ (type ∈ scalarTypes ∨ Reaches declarations scope type) := by
  rw [typeDefects, ← reaches_iff]
  by_cases unresolved : type = unresolvedType
  · simp [unresolved]
  · cases scalar : scalarTypes.contains type <;>
      cases known : isDeclared (declaredInAll [] declarations) scope type <;>
      simp_all

theorem number_fresh_iff (owner : String) (earlier : List FieldDeclaration) (field : FieldDeclaration) :
    numberDefects owner earlier field = [] ↔ field.number ∉ numbersOf earlier := by
  unfold numberDefects
  cases found : earlier.find? fun other => other.number = field.number with
  | none =>
      rw [List.find?_eq_none] at found
      simpa [numbersOf] using found
  | some first =>
      have same : first.number = field.number := by simpa using List.find?_some found
      simpa [numbersOf] using ⟨first, List.mem_of_find?_eq_some found, same⟩

theorem field_accepted_iff (earlier : List FieldDeclaration) (field : FieldDeclaration) :
    fieldIssues (declaredInAll [] declarations) scope earlier field = [] ↔
      field.number ∉ numbersOf earlier ∧ (field.label ≠ some .required ∧ field.label ≠ some .optional) ∧
        ∀ type ∈ field.types, type ≠ unresolvedType ∧ (type ∈ scalarTypes ∨ Reaches declarations scope type) := by
  simp only [fieldIssues, List.map_eq_nil_iff, List.append_eq_nil_iff, List.flatMap_eq_nil_iff, number_fresh_iff,
    label_accepted_iff, type_accepted_iff, and_assoc]

theorem fields_accepted_iff (earlier fields : List FieldDeclaration) :
    fieldsIssues (declaredInAll [] declarations) scope earlier fields = [] ↔
      Accepted declarations scope fields ∧ ∀ field ∈ fields, field.number ∉ numbersOf earlier := by
  induction fields generalizing earlier with
  | nil =>
      refine iff_of_true rfl ⟨⟨List.nodup_nil, ?_, ?_⟩, ?_⟩ <;> exact fun _ absent => absurd absent List.not_mem_nil
  | cons field rest ih =>
      have extended (number : Nat) : number ∉ numbersOf (earlier ++ [field]) ↔
          number ∉ numbersOf earlier ∧ number ≠ field.number := by simp [numbersOf, not_or]
      rw [fieldsIssues, List.append_eq_nil_iff, field_accepted_iff, ih]
      simp only [extended]
      constructor
      · rintro ⟨⟨fresh, labelled, typed⟩, accepted, apart⟩
        refine ⟨⟨List.nodup_cons.mpr ⟨fun again => ?_, accepted.numbers⟩, ?_, ?_⟩, ?_⟩
        · obtain ⟨other, member, same⟩ := List.mem_map.mp again
          exact (apart other member).2 same
        · exact List.forall_mem_cons.mpr ⟨labelled, accepted.labels⟩
        · exact List.forall_mem_cons.mpr ⟨typed, accepted.types⟩
        · exact List.forall_mem_cons.mpr ⟨fresh, fun other member => (apart other member).1⟩
      · rintro ⟨accepted, apart⟩
        obtain ⟨fresh, distinct⟩ := List.nodup_cons.mp accepted.numbers
        obtain ⟨labelled, labels⟩ := List.forall_mem_cons.mp accepted.labels
        obtain ⟨typed, types⟩ := List.forall_mem_cons.mp accepted.types
        obtain ⟨first, others⟩ := List.forall_mem_cons.mp apart
        refine ⟨⟨first, labelled, typed⟩, ⟨distinct, labels, types⟩, fun other member => ⟨others other member, ?_⟩⟩
        exact fun same => fresh (List.mem_map.mpr ⟨other, member, same⟩)

theorem number_repeats (owner : String) (earlier : List FieldDeclaration) (field : FieldDeclaration) :
    (numberDefects owner earlier field).length = if field.number ∈ numbersOf earlier then 1 else 0 := by
  by_cases known : field.number ∈ numbersOf earlier
  · rw [if_pos known]
    have some : numberDefects owner earlier field ≠ [] := fun none =>
      (number_fresh_iff owner earlier field).mp none known
    unfold numberDefects at some ⊢
    cases found : earlier.find? fun other => other.number = field.number with
    | none => exact absurd (by rw [found]) some
    | some first => rfl
  · rw [if_neg known, (number_fresh_iff owner earlier field).mpr known, List.length_nil]

theorem field_repeats (declared : List String) (earlier : List FieldDeclaration) (field : FieldDeclaration) :
    (fieldIssues declared scope earlier field).countP Issue.isRepeat =
      if field.number ∈ numbersOf earlier then 1 else 0 := by
  have numbers : (numberDefects (String.intercalate "." scope) earlier field).countP
      (Issue.isRepeat ∘ (·.at field.line)) = (numberDefects (String.intercalate "." scope) earlier field).length :=
    List.countP_eq_length.mpr fun defect member => decide_eq_true (repeat_defect_kind _ earlier field defect member)
  have labels : (labelDefects (String.intercalate "." scope) field).countP (Issue.isRepeat ∘ (·.at field.line)) = 0 := by
    refine List.countP_eq_zero.mpr fun defect member => ?_
    simp [Issue.isRepeat, Defect.at, forbidden_defect_kind _ field defect member]
  have types : (field.types.flatMap (typeDefects declared scope (String.intercalate "." scope) field.name)).countP
      (Issue.isRepeat ∘ (·.at field.line)) = 0 := by
    refine List.countP_eq_zero.mpr fun defect member => ?_
    obtain ⟨type, _, told⟩ := List.mem_flatMap.mp member
    rcases type_defect_cases declared scope _ field.name type defect told with rfl | ⟨rfl, _⟩ <;>
      simp [Issue.isRepeat, Defect.at, Defect.kind]
  rw [fieldIssues, List.countP_map, List.countP_append, List.countP_append, numbers, labels, types, number_repeats,
    Nat.add_zero]

theorem fields_repeats (declared : List String) (earlier fields : List FieldDeclaration) :
    (fieldsIssues declared scope earlier fields).countP Issue.isRepeat + (numbersOf (earlier ++ fields)).toFinset.card =
      fields.length + (numbersOf earlier).toFinset.card := by
  induction fields generalizing earlier with
  | nil => simp [fieldsIssues]
  | cons field rest ih =>
      have further := ih (earlier ++ [field])
      have extended : (numbersOf (earlier ++ [field])).toFinset = insert field.number (numbersOf earlier).toFinset := by
        ext number
        simp [numbersOf]
      rw [extended, List.append_assoc, List.singleton_append] at further
      rw [fieldsIssues, List.countP_append, field_repeats, List.length_cons]
      by_cases known : field.number ∈ numbersOf earlier
      · rw [Finset.card_insert_of_mem (List.mem_toFinset.mpr known)] at further
        rw [if_pos known]
        omega
      · rw [Finset.card_insert_of_notMem (by simpa using known)] at further
        rw [if_neg known]
        omega

end Fields

structure Verdict (text : String) (declarations : List Declaration) : Prop where
  -- What the check says of a text with these declarations.
  accepts : check text = [] ↔ (∀ line, IsLine text.toList line → ¬ MentionsEntity line) ∧
    ∀ path members, MessageAt declarations path members → Accepted declarations path (fieldsOf members)
  listed : ∀ body, body ∈ bodiesInAll [] declarations ↔ MessageAt declarations body.path body.members
  repeated : (check text).countP Issue.isRepeat = ((bodiesInAll [] declarations).map fun body =>
    (fieldsOf body.members).length - (numbersOf (fieldsOf body.members)).toFinset.card).sum

theorem check_of_read (text : String) (declarations : List Declaration) (known : read text = .ok declarations) :
    check text = unknownEntities text ++ (bodiesInAll [] declarations).flatMap fun body =>
      fieldsIssues (declaredInAll [] declarations) body.path [] (fieldsOf body.members) := by
  rw [check, known, ← messages_issues_bodies]

theorem verdict_of_read (text : String) (declarations : List Declaration) (known : read text = .ok declarations) :
    Verdict text declarations := by
  have parts := check_of_read text declarations known
  refine ⟨?_, mem_bodies_iff declarations, ?_⟩
  · have accepted (body : Body) : fieldsIssues (declaredInAll [] declarations) body.path [] (fieldsOf body.members) = [] ↔
        Accepted declarations body.path (fieldsOf body.members) := by
      simp [fields_accepted_iff, numbersOf]
    rw [parts, List.append_eq_nil_iff, unknown_entities_nil_iff, List.flatMap_eq_nil_iff]
    simp only [accepted, mem_bodies_iff]
    exact and_congr_right fun _ => ⟨fun each path members placed => each ⟨path, members⟩ placed,
      fun each body placed => each body.path body.members placed⟩
  · have mentions : (unknownEntities text).countP Issue.isRepeat = 0 := by
      refine List.countP_eq_zero.mpr fun issue member => ?_
      simp [Issue.isRepeat, unknown_entities_kind text issue member]
    rw [parts, List.countP_append, mentions, List.countP_flatMap, Nat.zero_add]
    refine congrArg List.sum (List.map_congr_left fun body _ => ?_)
    have count := fields_repeats body.path (declaredInAll [] declarations) [] (fieldsOf body.members)
    simp only [List.nil_append, numbersOf, List.map_nil, List.toFinset_nil, Finset.card_empty] at count
    simp only [Function.comp_apply, numbersOf]
    omega

def numberedTwice : String :=
  "message A \x7b\n  message B \x7b\n    A.B b = 1;\n    oneof c \x7b\n      bool d = 1;\n    \x7d\n  \x7d\n\x7d\n"

def numberedTwiceRead : List Declaration :=
  [.message "A" 1 [.message "B" 2 [.field ⟨"b", 1, ["A.B"], none, 3⟩, .oneof "c" 4 [⟨"d", 1, ["bool"], none, 5⟩]]]]

theorem numbered_twice_read : read numberedTwice = .ok numberedTwiceRead :=
  run_within 40 Machine.start Place.start (Source.ofText numberedTwice) _ rfl

theorem verdict_numbered_twice : read numberedTwice = .ok numberedTwiceRead ∧
    Verdict numberedTwice numberedTwiceRead ∧ (check numberedTwice).countP Issue.isRepeat = 1 ∧ check numberedTwice ≠ [] := by
  have verdict := verdict_of_read numberedTwice numberedTwiceRead numbered_twice_read
  have once : (check numberedTwice).countP Issue.isRepeat = 1 := verdict.repeated.trans (by decide)
  refine ⟨numbered_twice_read, verdict, once, fun none => ?_⟩
  rw [none] at once
  cases once

end SchemaRecovery.Proto
