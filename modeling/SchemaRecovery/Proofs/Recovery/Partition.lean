import SchemaRecovery.Proofs.Recovery.Members

set_option autoImplicit false

namespace SchemaRecovery.Recovery

open Script (Node)
open Schema (Field Member Oneof)

def plainNamed (name : String) (members : List Member) : List Field :=
  (members.filterMap Member.field?).filter fun field => field.name = name

def leftover (calls : List String) : List Member → List Member
  | [] => []
  | .oneof group :: rest => .oneof group :: leftover calls rest
  | .field field :: rest =>
    if field.name ∈ calls then leftover (calls.erase field.name) rest else .field field :: leftover calls rest

def acceptedGroup? (property : Node) : Option (String × List (Option Node)) :=
  match keyedProperty? property with
  | some ⟨name, .array elements⟩ => some (name, elements)
  | _ => none

def calledName? (element : Option Node) : Option String := element.bind (·.stringValue?)

def callsOf (table : List Node) : List String :=
  (table.filterMap acceptedGroup?).flatMap fun group => group.2.filterMap calledName?

section Specification
variable (scope : Scope) (definition : String) (members : List Member)

def undeclared (group : String) (element : Option Node) : Notice :=
  let shown := match calledName? element with
    | none | some "" => Node.textOr element
    | some name => name
  scope.warn "oneof_member_missing" ("Oneof '" ++ group ++ "' names a member that is not declared") definition (some shown)

def dropped (group : String) : Notice :=
  scope.warn "oneof_member_missing" ("Oneof '" ++ group ++ "' has no declared members and was dropped") definition none

def unsupported (property : Node) : Notice :=
  scope.warn "unrecognized_shape" ("Unsupported oneof declaration: " ++ property.text) definition none

def answer (earlier : List String) (group : String) (element : Option Node) : Field ⊕ Notice :=
  -- An entry that is called after others: the call with number `k` of a name takes the plain
  -- field with number `k` of that name, and where there is none, or no name, the entry is warned
  -- of.
  match (calledName? element).bind fun name => (plainNamed name members)[earlier.count name]? with
  | some field => .inl field
  | none => .inr (undeclared scope definition group element)

def answers (earlier : List String) (group : String) (elements : List (Option Node)) : List (Field ⊕ Notice) :=
  elements.mapIdx fun place element =>
    answer scope definition members (earlier ++ (elements.take place).filterMap calledName?) group element

def formedGroup? (earlier : List String) (property : Node) : Option Oneof :=
  (acceptedGroup? property).bind fun group =>
    match (answers scope definition members earlier group.1 group.2).filterMap Sum.getLeft? with
    | [] => none
    | taken => some ⟨group.1, taken⟩

def groupNotices (earlier : List String) (property : Node) : List Notice :=
  match acceptedGroup? property with
  | none => [unsupported scope definition property]
  | some (name, elements) =>
    let given := answers scope definition members earlier name elements
    given.filterMap Sum.getRight?
      ++ if given.filterMap Sum.getLeft? = [] then [dropped scope definition name] else []

def formedGroups (earlier : List String) (table : List Node) : List Oneof :=
  (table.mapIdx fun place property =>
    formedGroup? scope definition members (earlier ++ callsOf (table.take place)) property).filterMap id

def formedNotices (earlier : List String) (table : List Node) : List Notice :=
  (table.mapIdx fun place property =>
    groupNotices scope definition members (earlier ++ callsOf (table.take place)) property).flatten

structure Partitioned (table : List Node) (result : List Member × List Notice) : Prop where
  -- Members that have been grouped: those that no call takes stay in their order, with the
  -- groups that were there before, and the new groups stand behind them.
  fields : (fieldsOf result.1).Perm (fieldsOf members)
  grouped : result.1 = leftover (callsOf table) members ++ (formedGroups scope definition members [] table).map .oneof
  ordered : (leftover (callsOf table) members).Sublist members
  plain : ∀ name, plainNamed name (leftover (callsOf table) members) =
    (plainNamed name members).drop ((callsOf table).count name)
  groups : (leftover (callsOf table) members).filterMap Member.oneof? = members.filterMap Member.oneof?
  filled : ∀ group ∈ formedGroups scope definition members [] table, group.members ≠ []
  noted : result.2 = formedNotices scope definition members [] table

end Specification

theorem leftover_nil (members : List Member) : leftover [] members = members := by
  induction members with
  | nil => rfl
  | cons first rest ih => cases first <;> simp [leftover, ih]

theorem leftover_append (first second : List String) (members : List Member) :
    leftover (first ++ second) members = leftover second (leftover first members) := by
  induction members generalizing first second with
  | nil => rfl
  | cons member rest ih =>
      cases member with
      | oneof group => simp only [leftover, ih]
      | field field =>
          by_cases here : field.name ∈ first
          · rw [leftover, leftover, if_pos (List.mem_append_left _ here), if_pos here, List.erase_append_left _ here, ih]
          · rw [leftover, leftover, if_neg here, leftover]
            by_cases there : field.name ∈ second
            · rw [if_pos (List.mem_append_right _ there), if_pos there, List.erase_append_right _ here, ih]
            · rw [if_neg (by simp [here, there]), if_neg there, ih]

theorem plain_named_field (name : String) (field : Field) (rest : List Member) :
    plainNamed name (.field field :: rest) =
      if field.name = name then field :: plainNamed name rest else plainNamed name rest := by
  by_cases same : field.name = name <;> simp [plainNamed, Member.field?, same]

theorem plain_named_oneof (name : String) (group : Oneof) (rest : List Member) :
    plainNamed name (.oneof group :: rest) = plainNamed name rest := rfl

theorem leftover_named (calls : List String) (name : String) (members : List Member) :
    plainNamed name (leftover calls members) = (plainNamed name members).drop (calls.count name) := by
  induction members generalizing calls with
  | nil => exact List.drop_nil.symm
  | cons member rest ih =>
      cases member with
      | oneof group => rw [leftover, plain_named_oneof, plain_named_oneof, ih]
      | field field =>
          rw [leftover, plain_named_field]
          by_cases called : field.name ∈ calls
          · rw [if_pos called, ih]
            by_cases same : field.name = name
            · have some : 0 < calls.count name := List.count_pos_iff.mpr (same ▸ called)
              obtain ⟨less, counted⟩ := Nat.exists_eq_succ_of_ne_zero (Nat.ne_of_gt some)
              rw [if_pos same, ← same, List.count_erase_self, same, counted, Nat.succ_sub_one, List.drop_succ_cons]
            · rw [if_neg same, List.count_erase_of_ne (Ne.symm same)]
          · rw [if_neg called, plain_named_field, ih]
            by_cases same : field.name = name
            · have none : calls.count name = 0 := List.count_eq_zero.mpr (same ▸ called)
              rw [if_pos same, if_pos same, none, List.drop_zero, List.drop_zero]
            · rw [if_neg same, if_neg same]

theorem leftover_sublist (calls : List String) (members : List Member) : (leftover calls members).Sublist members := by
  induction members generalizing calls with
  | nil => exact .refl _
  | cons member rest ih =>
      cases member with
      | oneof group => exact (ih calls).cons_cons _
      | field field =>
          rw [leftover]
          split
          · exact (ih _).cons _
          · exact (ih _).cons_cons _

theorem leftover_groups (calls : List String) (members : List Member) :
    (leftover calls members).filterMap Member.oneof? = members.filterMap Member.oneof? := by
  induction members generalizing calls with
  | nil => rfl
  | cons member rest ih =>
      cases member with
      | oneof group => exact congrArg (group :: ·) (ih calls)
      | field field =>
          rw [leftover]
          split
          · exact ih _
          · exact ih calls

theorem take_field_leftover (name : String) (members : List Member) :
    takeField name members = (plainNamed name members).head?.map fun field => (field, leftover [name] members) := by
  induction members with
  | nil => rfl
  | cons member rest ih =>
      cases member with
      | oneof group =>
          rw [takeField, ih, plain_named_oneof, leftover, Option.map_map]
          · rfl
          · exact fun field same => Member.noConfusion same
      | field field =>
          rw [takeField, plain_named_field, leftover]
          by_cases same : field.name = name
          · simp [same, leftover_nil]
          · simp [same, ih, Function.comp_def]

theorem leftover_unanswered (name : String) (members : List Member) (none : plainNamed name members = []) :
    leftover [name] members = members := by
  induction members with
  | nil => rfl
  | cons member rest ih =>
      cases member with
      | oneof group => rw [leftover, ih none]
      | field field =>
          rw [plain_named_field] at none
          split at none
          · cases none
          · rename_i other
            rw [leftover, if_neg (by simpa using other), ih none]

theorem filter_map_first {α β : Type} (read : α → Option β) (first : α) (rest : List α) :
    (first :: rest).filterMap read = (read first).toList ++ rest.filterMap read := by
  cases found : read first with
  | none => rw [List.filterMap_cons_none found]; rfl
  | some value => rw [List.filterMap_cons_some found]; rfl

theorem calls_nil : callsOf [] = [] := rfl

theorem calls_cons (property : Node) (rest : List Node) :
    callsOf (property :: rest) =
      (acceptedGroup? property).toList.flatMap (fun group => group.2.filterMap calledName?) ++ callsOf rest := by
  rw [callsOf, filter_map_first, List.flatMap_append]
  rfl

section Run
variable (scope : Scope) (definition : String) (members : List Member)

theorem answers_cons (earlier : List String) (group : String) (element : Option Node) (rest : List (Option Node)) :
    answers scope definition members earlier group (element :: rest) =
      answer scope definition members earlier group element ::
        answers scope definition members (earlier ++ (calledName? element).toList) group rest := by
  simp only [answers, List.mapIdx_cons, List.take_zero, List.filterMap_nil, List.append_nil, List.take_succ_cons,
    filter_map_first, List.append_assoc]

theorem calls_take (property : Node) (rest : List Node) (place : Nat) :
    callsOf ((property :: rest).take (place + 1)) = callsOf [property] ++ callsOf (rest.take place) := by
  rw [List.take_succ_cons, calls_cons, calls_cons property [], calls_nil, List.append_nil]

theorem formed_groups_cons (earlier : List String) (property : Node) (rest : List Node) :
    formedGroups scope definition members earlier (property :: rest) =
      (formedGroup? scope definition members earlier property).toList ++
        formedGroups scope definition members (earlier ++ callsOf [property]) rest := by
  simp only [formedGroups, List.mapIdx_cons, filter_map_first, calls_take, List.append_assoc]
  rw [List.take_zero, calls_nil, List.append_nil]
  rfl

theorem formed_notices_cons (earlier : List String) (property : Node) (rest : List Node) :
    formedNotices scope definition members earlier (property :: rest) =
      groupNotices scope definition members earlier property ++
        formedNotices scope definition members (earlier ++ callsOf [property]) rest := by
  simp only [formedNotices, List.mapIdx_cons, List.flatten_cons, calls_take, List.append_assoc]
  rw [List.take_zero, calls_nil, List.append_nil]

theorem group_element_answered (earlier : List String) (group : String) (taken : List Field) (notices : List Notice)
    (element : Option Node) :
    groupElement scope definition group ⟨leftover earlier members, taken, notices⟩ element =
      ⟨leftover (earlier ++ (calledName? element).toList) members,
        taken ++ (answer scope definition members earlier group element).getLeft?.toList,
        notices ++ (answer scope definition members earlier group element).getRight?.toList⟩ := by
  unfold groupElement answer undeclared
  rw [← calledName?]
  cases called : calledName? element with
  | none => simp
  | some name =>
      have first : takeField name (leftover earlier members) = (plainNamed name members)[earlier.count name]?.map
          fun field => (field, leftover (earlier ++ [name]) members) := by
        rw [take_field_leftover, leftover_named, List.head?_drop, leftover_append]
      simp only [Option.bind_some, first]
      cases found : (plainNamed name members)[earlier.count name]? with
      | some field => simp
      | none =>
          have unanswered : plainNamed name (leftover earlier members) = [] := by
            rw [leftover_named, List.drop_eq_nil_iff]
            exact List.getElem?_eq_none_iff.mp found
          have same : leftover (earlier ++ [name]) members = leftover earlier members := by
            rw [leftover_append, leftover_unanswered name _ unanswered]
          exact congrArg₂ (fun left taken => Grouping.mk left taken _) same.symm (List.append_nil taken).symm

theorem group_elements_answered (group : String) (elements : List (Option Node)) (earlier : List String)
    (taken : List Field) (notices : List Notice) :
    elements.foldl (groupElement scope definition group) ⟨leftover earlier members, taken, notices⟩ =
      ⟨leftover (earlier ++ elements.filterMap calledName?) members,
        taken ++ (answers scope definition members earlier group elements).filterMap Sum.getLeft?,
        notices ++ (answers scope definition members earlier group elements).filterMap Sum.getRight?⟩ := by
  induction elements generalizing earlier taken notices with
  | nil => simp [answers]
  | cons first rest ih =>
      rw [List.foldl_cons, group_element_answered, ih, answers_cons]
      simp only [filter_map_first, List.append_assoc]

theorem group_property_formed (earlier : List String) (groups : List Oneof) (notices : List Notice) (property : Node) :
    groupProperty scope definition ⟨leftover earlier members, groups, notices⟩ property =
      ⟨leftover (earlier ++ callsOf [property]) members,
        groups ++ (formedGroup? scope definition members earlier property).toList,
        notices ++ groupNotices scope definition members earlier property⟩ := by
  rw [calls_cons, calls_nil, List.append_nil]
  unfold groupProperty
  split
  · rename_i name elements keyed
    have accepted : acceptedGroup? property = some (name, elements) := by rw [acceptedGroup?, keyed]
    have calls : (some (name, elements)).toList.flatMap (fun group => group.2.filterMap calledName?) =
        elements.filterMap calledName? := List.append_nil _
    rw [formedGroup?, groupNotices, accepted, calls, group_elements_answered, Option.bind_some]
    dsimp only
    cases answers scope definition members earlier name elements |>.filterMap Sum.getLeft? with
    | nil => simp [dropped]
    | cons first rest => simp
  · rename_i other
    have refused : acceptedGroup? property = none := by
      unfold acceptedGroup?
      split
      · exact absurd ‹_› (other _ _)
      · rfl
    rw [formedGroup?, groupNotices, refused]
    simp [unsupported]

theorem group_properties_formed (table : List Node) (earlier : List String) (groups : List Oneof)
    (notices : List Notice) :
    table.foldl (groupProperty scope definition) ⟨leftover earlier members, groups, notices⟩ =
      ⟨leftover (earlier ++ callsOf table) members, groups ++ formedGroups scope definition members earlier table,
        notices ++ formedNotices scope definition members earlier table⟩ := by
  -- The members that are left are told by the calls so far, whichever declarations made them.
  induction table generalizing earlier groups notices with
  | nil => simp [callsOf, formedGroups, formedNotices]
  | cons first rest ih =>
      rw [List.foldl_cons, group_property_formed, ih, formed_groups_cons, formed_notices_cons, calls_cons first rest,
        calls_cons first [], calls_nil, List.append_nil]
      simp only [List.append_assoc]

end Run

theorem formed_group_filled (scope : Scope) (definition : String) (members : List Member) (earlier : List String)
    (table : List Node) (group : Oneof) (member : group ∈ formedGroups scope definition members earlier table) :
    group.members ≠ [] := by
  obtain ⟨formed, listed, same⟩ := List.mem_filterMap.mp member
  obtain ⟨place, bound, made⟩ := List.mem_mapIdx.mp listed
  obtain rfl : formed = some group := same
  obtain ⟨accepted, _, taken⟩ := Option.bind_eq_some_iff.mp made
  split at taken
  · cases taken
  · rename_i filled
    cases taken
    exact filled

theorem group_oneofs_formed (scope : Scope) (definition : String) (table : List Node) (members : List Member) :
    groupOneofs scope definition table members =
      (leftover (callsOf table) members ++ (formedGroups scope definition members [] table).map .oneof,
        formedNotices scope definition members [] table) := by
  have formed := group_properties_formed scope definition members table [] [] []
  rw [leftover_nil] at formed
  rw [groupOneofs, formed]
  rfl

/-- Grouping is an ordered partition: every field of the message is in it once, where the calls put
it. -/
theorem oneofs_partitioned (scope : Scope) (definition : String) (table : List Node) (members : List Member) :
    Partitioned scope definition members table (groupOneofs scope definition table members) := by
  have formed := group_oneofs_formed scope definition table members
  refine ⟨?_, congrArg Prod.fst formed, leftover_sublist _ _, fun name => leftover_named _ name members,
    leftover_groups _ _, ?_, congrArg Prod.snd formed⟩
  · exact (group_oneofs_regrouped scope definition table members []).fields
  · exact fun group member => formed_group_filled scope definition members [] table group member

end SchemaRecovery.Recovery
