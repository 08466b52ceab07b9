import SchemaRecovery.Proto.Check

set_option autoImplicit false

namespace SchemaRecovery.Proto

inductive Declares : List Declaration → List String → Prop where
  | here (declarations : List Declaration) (declaration : Declaration) (name : String)
      (member : declaration ∈ declarations) (named : declaration.typeName? = some name) : Declares declarations [name]
  | inside (declarations : List Declaration) (name : String) (line : Nat) (members : List Declaration)
      (path : List String) (member : .message name line members ∈ declarations) (inner : Declares members path) :
      Declares declarations (name :: path)

inductive MessageAt : List Declaration → List String → List Declaration → Prop where
  | here (declarations : List Declaration) (name : String) (line : Nat) (members : List Declaration)
      (member : .message name line members ∈ declarations) : MessageAt declarations [name] members
  | inside (declarations : List Declaration) (name : String) (line : Nat) (members : List Declaration)
      (path : List String) (body : List Declaration) (member : .message name line members ∈ declarations)
      (inner : MessageAt members path body) : MessageAt declarations (name :: path) body

structure Body where
  path : List String
  members : List Declaration

mutual
def bodiesIn (scope : List String) : Declaration → List Body
  | .message name _ members => ⟨scope ++ [name], members⟩ :: bodiesInAll (scope ++ [name]) members
  | .enum .. | .oneof .. | .field _ => []

def bodiesInAll (scope : List String) : List Declaration → List Body
  | [] => []
  | declaration :: rest => bodiesIn scope declaration ++ bodiesInAll scope rest
end

theorem declares_mono (few many : List Declaration) (path : List String) (less : few ⊆ many)
    (declared : Declares few path) : Declares many path := by
  cases declared with
  | here _ declaration name member named => exact .here many declaration name (less member) named
  | inside _ name line members path member inner => exact .inside many name line members path (less member) inner

theorem declares_some (declarations : List Declaration) (path : List String) (declared : Declares declarations path) :
    path ≠ [] := by
  cases declared <;> exact List.cons_ne_nil _ _

theorem message_at_some (declarations : List Declaration) (path : List String) (members : List Declaration)
    (placed : MessageAt declarations path members) : path ≠ [] := by
  cases placed <;> exact List.cons_ne_nil _ _

theorem message_at_mono (few many : List Declaration) (path : List String) (members : List Declaration)
    (less : few ⊆ many) (placed : MessageAt few path members) : MessageAt many path members := by
  cases placed with
  | here _ name line _ member => exact .here many name line members (less member)
  | inside _ name line outer path _ member inner => exact .inside many name line outer path members (less member) inner

mutual
theorem declared_in_path (scope : List String) (declaration : Declaration) (full : String)
    (member : full ∈ declaredIn scope declaration) :
    ∃ path, Declares [declaration] path ∧ full = String.intercalate "." (scope ++ path) := by
  cases declaration with
  | message name line members =>
      rcases List.mem_cons.mp member with rfl | deeper
      · exact ⟨[name], .here _ _ name List.mem_cons_self rfl, rfl⟩
      · obtain ⟨path, declared, rfl⟩ := declared_in_all_path (scope ++ [name]) members full deeper
        exact ⟨name :: path, .inside _ name line members path List.mem_cons_self declared, by rw [List.append_cons scope name path]⟩
  | enum name line values =>
      obtain rfl := List.mem_singleton.mp member
      exact ⟨[name], .here _ _ name List.mem_cons_self rfl, rfl⟩
  | oneof => exact absurd member List.not_mem_nil
  | field => exact absurd member List.not_mem_nil
theorem declared_in_all_path (scope : List String) (declarations : List Declaration) (full : String)
    (member : full ∈ declaredInAll scope declarations) :
    ∃ path, Declares declarations path ∧ full = String.intercalate "." (scope ++ path) := by
  cases declarations with
  | nil => exact absurd member List.not_mem_nil
  | cons first rest =>
      rcases List.mem_append.mp member with here | later
      · obtain ⟨path, declared, same⟩ := declared_in_path scope first full here
        exact ⟨path, declares_mono _ _ path (List.cons_subset_cons first (List.nil_subset rest)) declared, same⟩
      · obtain ⟨path, declared, same⟩ := declared_in_all_path scope rest full later
        exact ⟨path, declares_mono _ _ path (List.subset_cons_self first rest) declared, same⟩
end

theorem declared_in_all_eq (scope : List String) (declarations : List Declaration) :
    declaredInAll scope declarations = declarations.flatMap (declaredIn scope) := by
  induction declarations with
  | nil => rfl
  | cons first rest ih => rw [declaredInAll, List.flatMap_cons, ih]

theorem path_declared_in_all (scope : List String) (declarations : List Declaration) (path : List String)
    (declared : Declares declarations path) : String.intercalate "." (scope ++ path) ∈ declaredInAll scope declarations := by
  induction declared generalizing scope with
  | here declarations declaration name member named =>
      rw [declared_in_all_eq]
      refine List.mem_flatMap.mpr ⟨declaration, member, ?_⟩
      cases declaration with
      | message own line members =>
          obtain rfl := Option.some.inj named
          exact List.mem_cons_self
      | enum own line values =>
          obtain rfl := Option.some.inj named
          exact List.mem_singleton_self _
      | oneof => cases named
      | field => cases named
  | inside declarations name line members path member inner ih =>
      rw [declared_in_all_eq]
      refine List.mem_flatMap.mpr ⟨_, member, List.mem_cons_of_mem _ ?_⟩
      rw [List.append_cons scope name path]
      exact ih (scope ++ [name])

theorem mem_declared_iff (scope : List String) (declarations : List Declaration) (full : String) :
    full ∈ declaredInAll scope declarations ↔
      ∃ path, Declares declarations path ∧ full = String.intercalate "." (scope ++ path) := by
  constructor
  · exact declared_in_all_path scope declarations full
  · rintro ⟨path, declared, rfl⟩
    exact path_declared_in_all scope declarations path declared

theorem is_declared_iff (declared scope : List String) (type : String) :
    isDeclared declared scope type = true ↔ ∃ outer, outer <+: scope ∧ fullName outer type ∈ declared := by
  simp only [isDeclared, List.any_eq_true, List.mem_range, List.contains_iff_mem]
  constructor
  · rintro ⟨depth, _, known⟩
    exact ⟨scope.take depth, List.take_prefix depth scope, known⟩
  · rintro ⟨outer, start, known⟩
    rw [List.prefix_iff_eq_take] at start
    refine ⟨min outer.length scope.length, by omega, ?_⟩
    rwa [← List.take_eq_take_min, ← start]

mutual
theorem bodies_in_placed (scope : List String) (declaration : Declaration) (body : Body)
    (member : body ∈ bodiesIn scope declaration) :
    ∃ path, MessageAt [declaration] path body.members ∧ body.path = scope ++ path := by
  cases declaration with
  | message name line members =>
      rcases List.mem_cons.mp member with rfl | deeper
      · exact ⟨[name], .here _ name line members List.mem_cons_self, rfl⟩
      · obtain ⟨path, placed, same⟩ := bodies_in_all_placed (scope ++ [name]) members body deeper
        exact ⟨name :: path, .inside _ name line members path _ List.mem_cons_self placed, by rw [same, List.append_cons scope name path]⟩
  | enum => exact absurd member List.not_mem_nil
  | oneof => exact absurd member List.not_mem_nil
  | field => exact absurd member List.not_mem_nil
theorem bodies_in_all_placed (scope : List String) (declarations : List Declaration) (body : Body)
    (member : body ∈ bodiesInAll scope declarations) :
    ∃ path, MessageAt declarations path body.members ∧ body.path = scope ++ path := by
  cases declarations with
  | nil => exact absurd member List.not_mem_nil
  | cons first rest =>
      rcases List.mem_append.mp member with here | later
      · obtain ⟨path, placed, same⟩ := bodies_in_placed scope first body here
        exact ⟨path, message_at_mono _ _ path _ (List.cons_subset_cons first (List.nil_subset rest)) placed, same⟩
      · obtain ⟨path, placed, same⟩ := bodies_in_all_placed scope rest body later
        exact ⟨path, message_at_mono _ _ path _ (List.subset_cons_self first rest) placed, same⟩
end

theorem bodies_in_all_eq (scope : List String) (declarations : List Declaration) :
    bodiesInAll scope declarations = declarations.flatMap (bodiesIn scope) := by
  induction declarations with
  | nil => rfl
  | cons first rest ih => rw [bodiesInAll, List.flatMap_cons, ih]

theorem placed_in_bodies (scope : List String) (declarations : List Declaration) (path : List String)
    (members : List Declaration) (placed : MessageAt declarations path members) :
    ⟨scope ++ path, members⟩ ∈ bodiesInAll scope declarations := by
  induction placed generalizing scope with
  | here declarations name line members member =>
      rw [bodies_in_all_eq]
      exact List.mem_flatMap.mpr ⟨_, member, List.mem_cons_self⟩
  | inside declarations name line members path body member inner ih =>
      rw [bodies_in_all_eq]
      refine List.mem_flatMap.mpr ⟨_, member, List.mem_cons_of_mem _ ?_⟩
      rw [List.append_cons scope name path]
      exact ih (scope ++ [name])

theorem mem_bodies_iff (declarations : List Declaration) (body : Body) :
    body ∈ bodiesInAll [] declarations ↔ MessageAt declarations body.path body.members := by
  constructor
  · intro member
    obtain ⟨path, placed, same⟩ := bodies_in_all_placed [] declarations body member
    rwa [same]
  · exact placed_in_bodies [] declarations body.path body.members

mutual
theorem message_issues_bodies (declared scope : List String) (declaration : Declaration) :
    messageIssues declared scope declaration =
      (bodiesIn scope declaration).flatMap fun body => fieldsIssues declared body.path [] (fieldsOf body.members) := by
  cases declaration with
  | message name line members =>
      rw [messageIssues, bodiesIn, List.flatMap_cons, messages_issues_bodies declared (scope ++ [name]) members]
  | enum => rfl
  | oneof => rfl
  | field => rfl
theorem messages_issues_bodies (declared scope : List String) (declarations : List Declaration) :
    messagesIssues declared scope declarations =
      (bodiesInAll scope declarations).flatMap fun body => fieldsIssues declared body.path [] (fieldsOf body.members) := by
  cases declarations with
  | nil => rfl
  | cons first rest =>
      rw [messagesIssues, bodiesInAll, List.flatMap_append, message_issues_bodies declared scope first,
        messages_issues_bodies declared scope rest]
end

end SchemaRecovery.Proto
