import SchemaRecovery.Proofs.Recovery.Alternatives
import SchemaRecovery.Proofs.Recovery.Recovered

set_option autoImplicit false

namespace SchemaRecovery.Recovery

open Script (Node)
open Schema (Field)

def flagTokens (settings : Settings) (leaves : List Node) : List TableToken :=
  (leaves.filterMap tableToken?).filter fun token =>
    token.table = settings.flagsTable ∧ token.table ≠ settings.typesTable

def Untyped (settings : Settings) (leaves : List Node) : Prop :=
  ∀ leaf ∈ leaves, ∀ token, tableToken? leaf = some token → token.table ≠ settings.typesTable

structure LastType (settings : Settings) (leaves : List Node) (leaf : Node) (token : TableToken) : Prop where
  read : tableToken? leaf = some token
  typed : token.table = settings.typesTable
  last : ∃ before after, leaves = before ++ leaf :: after ∧ Untyped settings after

section Leaves
variable (settings : Settings)

theorem untyped_or_last (leaves : List Node) :
    Untyped settings leaves ∨ ∃ leaf token, LastType settings leaves leaf token := by
  induction leaves with
  | nil => exact .inl fun _ absent => absurd absent List.not_mem_nil
  | cons first rest ih =>
      rcases ih with untyped | ⟨leaf, token, read, typed, before, after, rfl, last⟩
      · by_cases here : ∃ token, tableToken? first = some token ∧ token.table = settings.typesTable
        · obtain ⟨token, read, typed⟩ := here
          exact .inr ⟨first, token, read, typed, [], rest, rfl, untyped⟩
        · refine .inl fun leaf member token read typed => ?_
          rcases List.mem_cons.mp member with rfl | later
          · exact here ⟨token, read, typed⟩
          · exact untyped leaf later token read typed
      · exact .inr ⟨leaf, token, read, typed, first :: before, after, rfl, last⟩

theorem tokens_append (table : String) (a b : List Node) :
    tokensOf table (a ++ b) = tokensOf table a ++ tokensOf table b := by
  simp [tokensOf]

theorem untyped_tokens (leaves : List Node) (untyped : Untyped settings leaves) :
    tokensOf settings.typesTable leaves = [] := by
  rw [tokensOf, List.map_eq_nil_iff, List.filter_eq_nil_iff]
  intro token read
  obtain ⟨leaf, member, found⟩ := List.mem_filterMap.mp read
  simpa using untyped leaf member token found

theorem last_type_token (leaves : List Node) (leaf : Node) (token : TableToken)
    (last : LastType settings leaves leaf token) :
    (tokensOf settings.typesTable leaves).getLast? = some (Text.lower token.name) := by
  obtain ⟨before, after, rfl, untyped⟩ := last.last
  have here : tokensOf settings.typesTable [leaf] = [Text.lower token.name] := by
    simp [tokensOf, last.read, last.typed]
  rw [← List.singleton_append, tokens_append, tokens_append, here, untyped_tokens settings after untyped,
    List.append_nil, List.getLast?_concat]

theorem last_type_alone (leaves : List Node) (leaf : Node) (token : TableToken)
    (last : LastType settings leaves leaf token) : LastType settings (orLeaves leaf) leaf token := by
  rw [or_leaves_leaf leaf (token_apart leaf token last.read)]
  exact ⟨last.read, last.typed, [], [], rfl, fun _ absent => absurd absent List.not_mem_nil⟩

theorem flags_of_leaves (leaves : List Node) :
    flagsOf settings leaves = (flagTokens settings leaves).map fun token => Text.lower token.name := by
  unfold flagsOf flagTokens tokensOf
  split
  · rename_i shared
    simp [shared]
  · rename_i separate
    congr 1
    refine List.filter_congr fun token _ => ?_
    by_cases flag : token.table = settings.flagsTable <;> simp [flag, separate]

end Leaves

section Field
variable (scope : Scope) (name : String) (tag : Int) (reference : Option Node)

abbrev fieldOf (type : Node) : Field := resolveField scope name ⟨tag, some type, reference⟩

theorem type_leaves (type : Node) : typeLeaves (some type) = orLeaves type := by
  simp [typeLeaves]

theorem field_of_named (type : Node) :
    (fieldOf scope name tag reference type).name = name ∧ (fieldOf scope name tag reference type).id = some tag := by
  unfold fieldOf resolveField
  split <;> exact ⟨rfl, rfl⟩

theorem field_of_flags (type : Node) :
    (fieldOf scope name tag reference type).flags =
      (flagTokens scope.settings (orLeaves type)).map fun token => Text.lower token.name := by
  rw [← flags_of_leaves, ← type_leaves]
  unfold fieldOf resolveField
  split <;> rfl

theorem resolve_type_last (a b : FieldEntry) (text : String)
    (left : (tokensOf scope.settings.typesTable (typeLeaves a.type)).getLast? = some text)
    (right : (tokensOf scope.settings.typesTable (typeLeaves b.type)).getLast? = some text)
    (reference : a.reference = b.reference) : resolveType scope a = resolveType scope b := by
  rw [resolveType, resolveType, left, right, reference]
  by_cases map : text = "map"
  · subst map
    rfl
  · by_cases message : text = "message"
    · subst message
      rfl
    · by_cases enum : text = "enum"
      · subst enum
        rfl
      · simp

theorem field_of_last (type leaf : Node) (token : TableToken)
    (last : LastType scope.settings (orLeaves type) leaf token) :
    fieldOf scope name tag reference type =
      { fieldOf scope name tag reference leaf with flags := (fieldOf scope name tag reference type).flags } := by
  have here := last_type_token _ _ leaf token last
  have there := last_type_token _ _ leaf token (last_type_alone _ _ leaf token last)
  rw [← type_leaves] at here there
  have same : resolveType scope ⟨tag, some type, reference⟩ = resolveType scope ⟨tag, some leaf, reference⟩ :=
    resolve_type_last scope _ _ _ here there rfl
  simp only [fieldOf, resolveField, same]
  split <;> rfl

theorem field_of_untyped (type : Node) (untyped : Untyped scope.settings (orLeaves type)) :
    fieldOf scope name tag reference type = {
      name := name
      id := some tag
      flags := (fieldOf scope name tag reference type).flags
      unresolved := some ⟨"no type token", some type.text⟩ } := by
  have none : (tokensOf scope.settings.typesTable (typeLeaves (some type))).getLast? = none := by
    rw [type_leaves, untyped_tokens _ _ untyped, List.getLast?_nil]
  have failed : resolveType scope ⟨tag, some type, reference⟩ = .error ⟨"no type token", some type.text⟩ := by
    rw [resolveType, none]
    rfl
  simp only [fieldOf, resolveField, failed]

def unquoted (field : Field) : Field :=
  { field with unresolved := field.unresolved.map fun why => { why with expression := none } }

theorem same_leaves_unquoted (a b : Node) (same : orLeaves a = orLeaves b) :
    unquoted (fieldOf scope name tag reference a) = unquoted (fieldOf scope name tag reference b) := by
  have flags : (fieldOf scope name tag reference a).flags = (fieldOf scope name tag reference b).flags := by
    rw [field_of_flags, field_of_flags, same]
  rcases untyped_or_last scope.settings (orLeaves a) with untyped | ⟨leaf, token, last⟩
  · rw [field_of_untyped scope name tag reference a untyped,
      field_of_untyped scope name tag reference b (same ▸ untyped), flags]
    rfl
  · rw [field_of_last scope name tag reference a leaf token last,
      field_of_last scope name tag reference b leaf token (same ▸ last), flags]

structure ReadOff (type : Node) (field : Field) : Prop where
  named : field.name = name
  tagged : field.id = some tag
  flags : field.flags = (flagTokens scope.settings (orLeaves type)).map fun token => Text.lower token.name
  decided : Untyped scope.settings (orLeaves type) ∧ field.type = none ∧ field.mapTypes = none ∨
    ∃ leaf token, LastType scope.settings (orLeaves type) leaf token ∧
      field = { fieldOf scope name tag reference leaf with flags := field.flags }

theorem field_of_read_off (type : Node) :
    ReadOff scope name tag reference type (fieldOf scope name tag reference type) where
  named := (field_of_named scope name tag reference type).1
  tagged := (field_of_named scope name tag reference type).2
  flags := field_of_flags scope name tag reference type
  decided := by
    rcases untyped_or_last scope.settings (orLeaves type) with untyped | ⟨leaf, token, last⟩
    · rw [field_of_untyped scope name tag reference type untyped]
      exact .inl ⟨untyped, rfl, rfl⟩
    · exact .inr ⟨leaf, token, last, field_of_last scope name tag reference type leaf token last⟩

end Field

/-- An expression has one way to be taken apart at every `|`, and where two ways give the same
leaves, they make the same field but for a quoted expression. -/
theorem grouping_free :
    (∀ node, (alternatives node).node = node ∧ (alternatives node).Maximal ∧ orLeaves node = (alternatives node).leaves ∧
      ∀ tree : Alternatives, tree.Maximal → tree.node = node → tree = alternatives node) ∧
    (∀ node, ∀ leaf ∈ orLeaves node, paired leaf = false) ∧
    (∀ left right, orLeaves (.binary "|" left right) = orLeaves left ++ orLeaves right) ∧
    ∀ (scope : Scope) (name : String) (tag : Int) (reference : Option Node) (a b : Node), orLeaves a = orLeaves b →
      unquoted (fieldOf scope name tag reference a) = unquoted (fieldOf scope name tag reference b) ∧
        ReadOff scope name tag reference a (fieldOf scope name tag reference a) := by
  refine ⟨fun node => ?_, fun node leaf member => ?_, or_leaves_paired, ?_⟩
  · refine ⟨alternatives_node node, alternatives_maximal node, or_leaves_alternatives node, ?_⟩
    rintro tree maximal rfl
    exact (alternatives_unique tree maximal).symm
  · rw [or_leaves_alternatives] at member
    exact alternatives_maximal node leaf member
  · intro scope name tag reference a b same
    exact ⟨same_leaves_unquoted scope name tag reference a b same, field_of_read_off scope name tag reference a⟩

namespace Report

def pairwise : Node :=
  .binary "|" (.binary "|" (token "TYPES" "BOOL") (token "FLAGS" "REPEATED"))
    (.binary "|" (token "FLAGS" "REPEATED") (token "TYPES" "INT32"))

def inmost : Node :=
  .binary "|" (token "TYPES" "BOOL")
    (.binary "|" (.binary "|" (token "FLAGS" "REPEATED") (token "FLAGS" "REPEATED")) (token "TYPES" "INT32"))

def spelled : List Node :=
  [token "TYPES" "BOOL", token "FLAGS" "REPEATED", token "FLAGS" "REPEATED", token "TYPES" "INT32"]

theorem regrouped_leaves : orLeaves pairwise = spelled ∧ orLeaves inmost = spelled := by
  have single (table name : String) : orLeaves (token table name) = [token table name] := or_leaves_leaf _ rfl
  simp only [pairwise, inmost, or_leaves_paired, single]
  exact ⟨rfl, rfl⟩

def plainScope : Scope := ⟨{}, [], { name := "Report", statement := .leaf .empty }⟩

end Report

open Report in
theorem grouping_free_regrouped : orLeaves pairwise = orLeaves inmost ∧
    unquoted (fieldOf plainScope "x" 1 none pairwise) = unquoted (fieldOf plainScope "x" 1 none inmost) ∧
    (fieldOf plainScope "x" 1 none pairwise).flags = ["repeated", "repeated"] ∧
    (fieldOf plainScope "x" 1 none pairwise).type = some "int32" := by
  have same := regrouped_leaves.1.trans regrouped_leaves.2.symm
  obtain ⟨unquoted, read⟩ := grouping_free.2.2.2 plainScope "x" 1 none pairwise inmost same
  refine ⟨same, unquoted, ?_, ?_⟩
  · rw [read.flags, regrouped_leaves.1]
    decide
  · have last : (tokensOf plainScope.settings.typesTable (typeLeaves (some pairwise))).getLast? = some "int32" := by
      rw [type_leaves, regrouped_leaves.1]
      decide
    simp [fieldOf, resolveField, resolveType, last]

end SchemaRecovery.Recovery
