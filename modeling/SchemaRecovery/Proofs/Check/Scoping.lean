import SchemaRecovery.Proofs.Check.Verdict
import SchemaRecovery.Proofs.Reading.WellNamed

set_option autoImplicit false

namespace SchemaRecovery.Proto

open Schema (IsName)

structure Nearest (declarations : List Declaration) (scope : List String) (name : String) (near : List String) : Prop where
  around : near <+: scope
  declares : Declares declarations (near ++ [name])
  innermost : ∀ other, other <+: scope → Declares declarations (other ++ [name]) → other <+: near

def Finds (declarations : List Declaration) (scope : List String) (first : String) (rest : List String) : Prop :=
  -- The definition that a compiler finds for a type of one or more parts.
  ∃ near, Nearest declarations scope first near ∧ Declares declarations (near ++ first :: rest)

def Shadowed (declarations : List Declaration) (scope : List String) (first : String) (rest : List String) : Prop :=
  -- The whole type is declared in a scope, and further in its first part is declared without the
  -- others.
  ∃ near far, Nearest declarations scope first near ∧ ¬ Declares declarations (near ++ first :: rest) ∧ far <+: near ∧
    Declares declarations (far ++ first :: rest)

section Scopes
variable (declarations : List Declaration)

theorem declares_around (path start : List String) (declared : Declares declarations path) (some : start ≠ [])
    (before : start <+: path) : Declares declarations start := by
  induction declared generalizing start with
  | here declarations declaration name member named =>
      cases start with
      | nil => exact absurd rfl some
      | cons own start =>
          obtain ⟨rfl, nothing⟩ := List.cons_prefix_cons.mp before
          obtain rfl := List.prefix_nil.mp nothing
          exact .here declarations declaration own member named
  | inside declarations name line members path member inner ih =>
      cases start with
      | nil => exact absurd rfl some
      | cons own start =>
          obtain ⟨rfl, further⟩ := List.cons_prefix_cons.mp before
          by_cases whole : start = []
          · subst whole
            exact .here declarations (.message own line members) own member rfl
          · exact .inside declarations own line members start member (ih start whole further)

theorem longest_prefix (holds : List String → Prop) (scope outer : List String) (start : outer <+: scope)
    (here : holds outer) : ∃ near, near <+: scope ∧ holds near ∧ ∀ other, other <+: scope → holds other → other <+: near := by
  induction scope using List.reverseRecOn with
  | nil => exact ⟨outer, start, here, fun other before _ => by simp [List.prefix_nil.mp before]⟩
  | append_singleton scope last ih =>
      by_cases whole : holds (scope ++ [last])
      · exact ⟨scope ++ [last], List.prefix_refl _, whole, fun _ before _ => before⟩
      · have shorter (other : List String) (before : other <+: scope ++ [last]) (known : holds other) : other <+: scope := by
          rcases List.prefix_concat_iff.mp before with rfl | shorter
          · exact absurd known whole
          · exact shorter
        obtain ⟨near, around, known, innermost⟩ := ih (shorter outer start here)
        exact ⟨near, around.trans (List.prefix_append _ _), known, fun other before found =>
          innermost other (shorter other before found) found⟩

theorem nearest_unique (scope : List String) (name : String) (near other : List String)
    (first : Nearest declarations scope name near) (second : Nearest declarations scope name other) : near = other :=
  (second.innermost near first.around first.declares).eq_of_length_le
    (first.innermost other second.around second.declares).length_le

theorem declared_iff_found_or_shadowed (scope : List String) (first : String) (rest : List String) :
    (∃ outer, outer <+: scope ∧ Declares declarations (outer ++ first :: rest)) ↔
      Finds declarations scope first rest ∨ Shadowed declarations scope first rest := by
  constructor
  · rintro ⟨outer, start, declared⟩
    have begins : outer ++ [first] <+: outer ++ first :: rest := ⟨rest, by simp⟩
    have here := declares_around declarations _ _ declared (by simp) begins
    obtain ⟨near, around, known, innermost⟩ :=
      longest_prefix (fun other => Declares declarations (other ++ [first])) scope outer start here
    by_cases whole : Declares declarations (near ++ first :: rest)
    · exact .inl ⟨near, ⟨around, known, innermost⟩, whole⟩
    · exact .inr ⟨near, outer, ⟨around, known, innermost⟩, whole, innermost outer start here, declared⟩
  · rintro (⟨near, nearest, declared⟩ | ⟨near, far, nearest, _, before, declared⟩)
    · exact ⟨near, nearest.around, declared⟩
    · exact ⟨far, before.trans nearest.around, declared⟩

theorem shadowed_unfound (scope : List String) (first : String) (rest : List String)
    (shadowed : Shadowed declarations scope first rest) : ¬ Finds declarations scope first rest := by
  rintro ⟨other, found, declared⟩
  obtain ⟨near, far, nearest, missing, _⟩ := shadowed
  exact missing (nearest_unique declarations scope first other near found nearest ▸ declared)

end Scopes

section Names

theorem join_injective (a b : List String) (someA : a ≠ []) (someB : b ≠ []) (namedA : ∀ part ∈ a, IsName part)
    (namedB : ∀ part ∈ b, IsName part) (same : String.intercalate "." a = String.intercalate "." b) : a = b := by
  have whole (parts : List String) (named : ∀ part ∈ parts, IsName part) : ∀ text ∈ parts.map String.toList, '.' ∉ text := by
    intro text member
    obtain ⟨part, present, rfl⟩ := List.mem_map.mp member
    exact Schema.not_in_name part.toList (named part present) '.' (by decide)
  have split (parts : List String) (some : parts ≠ []) (named : ∀ part ∈ parts, IsName part) :
      (String.intercalate "." parts).toList.splitOn '.' = parts.map String.toList := by
    rw [String.toList_intercalate]
    exact List.splitOn_intercalate '.' (whole parts named) (by simpa using some)
  have texts : a.map String.toList = b.map String.toList := by rw [← split a someA namedA, ← split b someB namedB, same]
  exact List.map_injective_iff.mpr (fun _ _ => String.toList_inj.mp) texts

theorem full_name_parts (outer parts : List String) (some : parts ≠ []) :
    fullName outer (String.intercalate "." parts) = String.intercalate "." (outer ++ parts) := by
  by_cases top : outer = []
  · simp [top, fullName, String.intercalate_singleton]
  · rw [fullName, String.intercalate_append_of_ne_nil top (List.cons_ne_nil _ _), String.intercalate_singleton,
      String.intercalate_append_of_ne_nil top some]

variable (declarations : List Declaration) (spelled : ∀ declaration ∈ declarations, declaration.WellNamed)
include spelled

theorem declares_named (path : List String) (declared : Declares declarations path) : ∀ part ∈ path, IsName part := by
  induction declared with
  | here declarations declaration name member named =>
      refine List.forall_mem_singleton.mpr ?_
      cases spelled declaration member with
      | field | oneof => cases named
      | enum own line values known => exact Option.some.inj named ▸ known
      | message own line members known => exact Option.some.inj named ▸ known
  | inside declarations name line members path member inner ih =>
      cases spelled _ member with
      | message _ _ _ known each => exact List.forall_mem_cons.mpr ⟨known, ih each⟩

theorem message_at_named (path : List String) (members : List Declaration)
    (placed : MessageAt declarations path members) :
    (∀ part ∈ path, IsName part) ∧ ∀ inner ∈ members, inner.WellNamed := by
  induction placed with
  | here declarations name line members member =>
      cases spelled _ member with
      | message _ _ _ known each => exact ⟨List.forall_mem_singleton.mpr known, each⟩
  | inside declarations name line members path body member inner ih =>
      cases spelled _ member with
      | message _ _ _ known each => exact ⟨List.forall_mem_cons.mpr ⟨known, (ih each).1⟩, (ih each).2⟩

theorem fields_named : ∀ field ∈ fieldsOf declarations, field.WellNamed := by
  intro field member
  obtain ⟨declaration, present, own⟩ := List.mem_flatMap.mp member
  cases spelled declaration present with
  | field single known => exact List.mem_singleton.mp own ▸ known
  | oneof name line members _ each => exact each field own
  | enum | message => exact absurd own List.not_mem_nil

theorem reaches_parts_iff (scope parts : List String) (around : ∀ part ∈ scope, IsName part) (some : parts ≠ [])
    (named : ∀ part ∈ parts, IsName part) : Reaches declarations scope (String.intercalate "." parts) ↔
      ∃ outer, outer <+: scope ∧ Declares declarations (outer ++ parts) := by
  constructor
  · rintro ⟨outer, path, start, declared, same⟩
    rw [full_name_parts outer parts some] at same
    have whole : ∀ part ∈ outer ++ parts, IsName part :=
      List.forall_mem_append.mpr ⟨fun part member => around part (start.subset member), named⟩
    obtain rfl := join_injective _ path (by simp [some]) (declares_some _ path declared) whole
      (declares_named declarations spelled path declared) same
    exact ⟨outer, start, declared⟩
  · rintro ⟨outer, start, declared⟩
    exact ⟨outer, outer ++ parts, start, declared, full_name_parts outer parts some⟩

end Names

section Report

theorem parted_injective (c : Char) (a b restA restB : List Char) (wholeA : c ∉ a) (wholeB : c ∉ b)
    (same : a ++ c :: restA = b ++ c :: restB) : a = b ∧ restA = restB := by
  induction a generalizing b with
  | nil =>
      cases b with
      | nil => exact ⟨rfl, (List.cons.inj same).2⟩
      | cons d b => exact absurd ((List.cons.inj same).1 ▸ List.mem_cons_self) wholeB
  | cons d a ih =>
      cases b with
      | nil => exact absurd ((List.cons.inj same).1 ▸ List.mem_cons_self) wholeA
      | cons e b =>
          obtain ⟨rfl, further⟩ := List.cons.inj same
          obtain ⟨rfl, rest⟩ := ih b (List.not_mem_of_not_mem_cons wholeA) (List.not_mem_of_not_mem_cons wholeB) further
          exact ⟨rfl, rest⟩

theorem joined_unspaced (parts : List String) (named : ∀ part ∈ parts, IsName part) :
    ' ' ∉ (String.intercalate "." parts).toList := by
  induction parts with
  | nil => simp
  | cons first rest ih =>
      obtain ⟨here, further⟩ := List.forall_mem_cons.mp named
      have word : ' ' ∉ first.toList := Schema.not_in_name first.toList here ' ' (by decide)
      cases rest with
      | nil => simpa [String.intercalate_singleton] using word
      | cons next rest => simpa [String.intercalate_cons_cons, word] using ih further

theorem unknown_type_chars (scope : List String) (field type : String) (some : scope ≠ []) :
    (Defect.unknownType (String.intercalate "." scope) field type).message.toList =
      (String.intercalate "." (scope ++ [field])).toList ++ ' ' :: ("references undeclared type '".toList ++
        (type.toList ++ ['\''])) := by
  have owner : String.intercalate "." scope ++ "." ++ field = String.intercalate "." (scope ++ [field]) := by
    rw [String.intercalate_append_of_ne_nil some (List.cons_ne_nil _ _), String.intercalate_singleton]
  have message : (Defect.unknownType (String.intercalate "." scope) field type).message =
    String.intercalate "." scope ++ "." ++ field ++ " references undeclared type '" ++ type ++ "'" := rfl
  rw [message, owner, String.append_assoc, String.append_assoc, String.toList_append, String.toList_append,
    String.toList_append]
  rfl

theorem unknown_type_injective (scope other : List String) (field fieldOther type typeOther : String)
    (some : scope ≠ []) (someOther : other ≠ []) (named : ∀ part ∈ scope ++ [field], IsName part)
    (namedOther : ∀ part ∈ other ++ [fieldOther], IsName part)
    (same : (Defect.unknownType (String.intercalate "." scope) field type).message =
      (Defect.unknownType (String.intercalate "." other) fieldOther typeOther).message) :
    scope = other ∧ type = typeOther := by
  have chars := congrArg String.toList same
  rw [unknown_type_chars scope field type some, unknown_type_chars other fieldOther typeOther someOther] at chars
  obtain ⟨paths, rest⟩ := parted_injective ' ' _ _ _ _ (joined_unspaced _ named) (joined_unspaced _ namedOther) chars
  have joined := join_injective _ _ (by simp) (by simp) named namedOther (String.toList_inj.mp paths)
  have types := List.append_cancel_right (List.append_cancel_left rest)
  exact ⟨(List.append_inj' joined rfl).1, String.toList_inj.mp types⟩

theorem told_of_type (declared scope : List String) (before : List FieldDeclaration) (field : FieldDeclaration)
    (issue : Issue) (member : issue ∈ fieldIssues declared scope before field) (kind : issue.kind = "unknown_type") :
    ∃ type ∈ field.types, isDeclared declared scope type = false ∧
      issue.message = (Defect.unknownType (String.intercalate "." scope) field.name type).message := by
  obtain ⟨defect, found, rfl⟩ := List.mem_map.mp member
  change defect.kind = _ at kind
  rcases List.mem_append.mp found with other | typed
  · rcases List.mem_append.mp other with numbered | labelled
    · exact absurd ((repeat_defect_kind _ before field defect numbered).symm.trans kind) (by decide)
    · exact absurd ((forbidden_defect_kind _ field defect labelled).symm.trans kind) (by decide)
  · obtain ⟨type, present, told⟩ := List.mem_flatMap.mp typed
    rcases type_defect_cases declared scope _ field.name type defect told with rfl | ⟨rfl, unknown⟩
    · exact absurd kind (by simp [Defect.kind])
    · exact ⟨type, present, unknown, rfl⟩

variable (text : String) (declarations : List Declaration) (known : read text = .ok declarations)
include known

theorem unknown_type_reported_iff (path : List String) (members : List Declaration)
    (placed : MessageAt declarations path members) (field : FieldDeclaration) (own : field ∈ fieldsOf members)
    (type : String) (used : type ∈ field.types) (resolved : type ≠ unresolvedType) (compound : type ∉ scalarTypes) :
    (Defect.unknownType (String.intercalate "." path) field.name type).at field.line ∈ check text ↔
      ¬ Reaches declarations path type := by
  have spelled := read_named text declarations known
  rw [check_of_read text declarations known, ← reaches_iff, Bool.not_eq_true]
  constructor
  · intro told
    rcases List.mem_append.mp told with mention | issue
    · exact absurd (unknown_entities_kind text _ mention) (by simp [Defect.at, Defect.kind])
    · obtain ⟨body, listed, issue⟩ := List.mem_flatMap.mp issue
      have there := (mem_bodies_iff declarations body).mp listed
      obtain ⟨other, present, before, issue⟩ := told_of_field _ body.path [] _ _ issue
      obtain ⟨typeOther, _, unknown, message⟩ := told_of_type _ body.path before other _ issue rfl
      obtain ⟨around, each⟩ := message_at_named declarations spelled path members placed
      obtain ⟨aroundOther, eachOther⟩ := message_at_named declarations spelled body.path body.members there
      have name := (fields_named members each field own).named
      have nameOther := (fields_named body.members eachOther other present).named
      obtain ⟨scope, same⟩ := unknown_type_injective path body.path field.name other.name type typeOther
        (message_at_some _ _ _ placed) (message_at_some _ _ _ there)
        (List.forall_mem_append.mpr ⟨around, List.forall_mem_singleton.mpr name⟩)
        (List.forall_mem_append.mpr ⟨aroundOther, List.forall_mem_singleton.mpr nameOther⟩) message
      rwa [scope, same]
  · intro unknown
    obtain ⟨before, told⟩ := field_told (declaredInAll [] declarations) path [] (fieldsOf members) field own
    have listed := (mem_bodies_iff declarations ⟨path, members⟩).mpr placed
    refine List.mem_append_right _ (List.mem_flatMap.mpr ⟨_, listed, told ?_⟩)
    refine List.mem_map_of_mem (List.mem_append_right _ (List.mem_flatMap.mpr ⟨type, used, ?_⟩))
    rw [typeDefects, if_neg resolved, unknown, Bool.or_false, if_neg (by simpa using compound)]
    exact List.mem_singleton_self _

/-- A type that the lookup does not find is reported unless its first part hides a whole one further
out. -/
theorem unfound_reported_iff_unshadowed (path : List String) (members : List Declaration)
    (placed : MessageAt declarations path members) (field : FieldDeclaration) (own : field ∈ fieldsOf members)
    (type : String) (used : type ∈ field.types) (resolved : type ≠ unresolvedType) (compound : type ∉ scalarTypes) :
    ∃ first rest, (∀ part ∈ first :: rest, IsName part) ∧ type = String.intercalate "." (first :: rest) ∧
      ((Defect.unknownType (String.intercalate "." path) field.name type).at field.line ∈ check text ↔
        ¬ Finds declarations path first rest ∧ ¬ Shadowed declarations path first rest) ∧
      ((¬ Finds declarations path first rest →
          (Defect.unknownType (String.intercalate "." path) field.name type).at field.line ∈ check text) ↔
        ¬ Shadowed declarations path first rest) := by
  have spelled := read_named text declarations known
  have reported := unknown_type_reported_iff text declarations known path members placed field own type used resolved compound
  obtain ⟨around, each⟩ := message_at_named declarations spelled path members placed
  obtain ⟨parts, some, named, rfl⟩ := (fields_named members each field own).types type used
  cases parts with
  | nil => exact absurd rfl some
  | cons first rest =>
      rw [reaches_parts_iff declarations spelled path _ around some named, declared_iff_found_or_shadowed, not_or]
        at reported
      refine ⟨first, rest, named, rfl, reported, ?_⟩
      constructor
      · intro claimed shadowed
        exact (reported.mp (claimed (shadowed_unfound declarations path first rest shadowed))).2 shadowed
      · exact fun free unfound => reported.mpr ⟨unfound, free⟩

end Report

def siblingType : String :=
  "message A \x7b\n  message Inner \x7b\n  \x7d\n\x7d\nmessage B \x7b\n  Inner i = 1;\n  A.Inner j = 2;\n\x7d\n"

def siblingFields : List FieldDeclaration := [⟨"i", 1, ["Inner"], none, 6⟩, ⟨"j", 2, ["A.Inner"], none, 7⟩]

def siblingRead : List Declaration :=
  [.message "A" 1 [.message "Inner" 2 []], .message "B" 5 (siblingFields.map .field)]

theorem sibling_read : read siblingType = .ok siblingRead :=
  run_within 40 Machine.start Place.start (Source.ofText siblingType) _ rfl

theorem sibling_unseen : ¬ ∃ outer, outer <+: ["B"] ∧ Declares siblingRead (outer ++ ["Inner"]) := by
  rintro ⟨outer, before, declared⟩
  have listed := path_declared_in_all [] siblingRead _ declared
  have places : outer ∈ ["B"].inits := (List.mem_inits _ _).mpr before
  simp only [List.inits, List.map_cons, List.map_nil, List.mem_cons, List.not_mem_nil, or_false] at places
  rcases places with rfl | rfl
  · exact absurd listed (by decide)
  · exact absurd listed (by decide)

theorem unfound_reported_sibling :
    read siblingType = .ok siblingRead ∧ MessageAt siblingRead ["B"] (siblingFields.map .field) ∧
      (Defect.unknownType "B" "i" "Inner").at 6 ∈ check siblingType := by
  have placed : MessageAt siblingRead ["B"] (siblingFields.map .field) := .here _ "B" 5 _ (by simp [siblingRead])
  obtain ⟨first, rest, named, same, _, claimed⟩ := unfound_reported_iff_unshadowed siblingType siblingRead sibling_read
    ["B"] _ placed ⟨"i", 1, ["Inner"], none, 6⟩ (by decide) "Inner" List.mem_cons_self (by decide) (by decide)
  have parts : ["Inner"] = first :: rest := join_injective _ _ (by simp) (by simp) (by decide) named
    (String.intercalate_singleton.trans same)
  obtain ⟨rfl, rfl⟩ := List.cons.inj parts
  have unseen := sibling_unseen
  rw [declared_iff_found_or_shadowed, not_or] at unseen
  exact ⟨sibling_read, placed, claimed.mpr unseen.2 unseen.1⟩

def hiddenType : String :=
  -- As a generator prints it: the type that is meant is the second message, and the first one
  -- hides it.
  "message A \x7b\n  message A \x7b\n  \x7d\n  message B \x7b\n  \x7d\n  message M \x7b\n    A.B outer = 1;\n  \x7d\n\x7d\n"

def hiddenField : FieldDeclaration := ⟨"outer", 1, ["A.B"], none, 7⟩

def hiddenRead : List Declaration :=
  [.message "A" 1 [.message "A" 2 [], .message "B" 4 [], .message "M" 6 [.field hiddenField]]]

theorem hidden_read : read hiddenType = .ok hiddenRead :=
  run_within 40 Machine.start Place.start (Source.ofText hiddenType) _ rfl

theorem hidden_placed : MessageAt hiddenRead ["A", "M"] [.field hiddenField] := by
  refine .inside _ "A" 1 _ ["M"] _ List.mem_cons_self (.here _ "M" 6 _ ?_)
  simp

theorem hidden_undeclared (path : List String)
    (absent : String.intercalate "." path ∉ ["A", "A.A", "A.B", "A.M"]) : ¬ Declares hiddenRead path := fun declared =>
  absent (path_declared_in_all [] hiddenRead path declared)

theorem hidden_nearest : Nearest hiddenRead ["A", "M"] "A" ["A"] where
  around := ⟨["M"], rfl⟩
  declares := .inside _ "A" 1 _ ["A"] List.mem_cons_self (.here _ (.message "A" 2 []) "A" List.mem_cons_self rfl)
  innermost := by
    intro other before declared
    have places : other ∈ ["A", "M"].inits := (List.mem_inits _ _).mpr before
    simp only [List.inits, List.map_cons, List.map_nil, List.mem_cons, List.not_mem_nil, or_false] at places
    rcases places with rfl | rfl | rfl
    · exact List.nil_prefix
    · exact List.prefix_refl _
    · exact absurd declared (hidden_undeclared ["A", "M", "A"] (by decide))

theorem hidden_unfound : ¬ Finds hiddenRead ["A", "M"] "A" ["B"] := by
  rintro ⟨near, nearest, declared⟩
  obtain rfl := nearest_unique hiddenRead ["A", "M"] "A" near ["A"] nearest hidden_nearest
  exact hidden_undeclared ["A", "A", "B"] (by decide) declared

theorem hidden_type_accepted :
    ∃ declarations, read hiddenType = .ok declarations ∧ (declaredInAll [] declarations).Nodup ∧
      ∃ path members, MessageAt declarations path members ∧ ∃ field ∈ fieldsOf members, "A.B" ∈ field.types ∧
        "A.B" ≠ unresolvedType ∧ "A.B" ∉ scalarTypes ∧ ¬ Finds declarations path "A" ["B"] ∧ check hiddenType = [] := by
  have accepted : check hiddenType = [] := by
    rw [check_of_read hiddenType hiddenRead hidden_read]
    decide
  exact ⟨hiddenRead, hidden_read, by decide, ["A", "M"], [.field hiddenField], hidden_placed, hiddenField,
    List.mem_cons_self, List.mem_cons_self, by decide, by decide, hidden_unfound, accepted⟩

end SchemaRecovery.Proto
