import SchemaRecovery.Proofs.Recovery.Table
import SchemaRecovery.Proofs.Schema.Nesting
import SchemaRecovery.Proofs.Script.Walk

set_option autoImplicit false

namespace SchemaRecovery.Recovery

open Script (Node Step Trail)
open Schema (EnumValue lookup_put_pair)

inductive BodyOf (settings : Settings) (localName : String) (properties : List Node) : Trail → Prop where
  -- Where a body is bound to a local name: it is assigned to the spec property of the name, or
  -- it is among the arguments of a call that the name is bound to.
  | table (index place : Nat) (node : Node) (above : Trail)
      (assigned : assignment? node = some ⟨.identifier localName, settings.specProperty, .object properties⟩) :
      BodyOf settings localName properties (⟨index, .object properties⟩ :: ⟨place, node⟩ :: above)
  | builder (index place outer : Nat) (callee : Node) (arguments : List Node) (node : Node) (above : Trail)
      (argument : arguments[index]? = some (.object properties)) (builds : Builds localName arguments node) :
      BodyOf settings localName properties
        (⟨index + 1, .object properties⟩ :: ⟨place, .call callee arguments⟩ :: ⟨outer, node⟩ :: above)

def BoundLiteral (settings : Settings) (localName : String) (values : List EnumValue) (trail : Trail) : Prop :=
  ∃ properties, BodyOf settings localName properties trail ∧ enumValues? (.object properties) = some values

def PassedOver (values : List EnumValue) (trail : Trail) : Prop :=
  -- A literal that a builder is given is passed over if its first name is empty.
  (∃ body father above, trail = body :: father :: above ∧ isCall father.node = true) ∧
    values.head?.map (·.name) = some ""

def ReadLiteral (settings : Settings) (localName : String) (values : List EnumValue) (trail : Trail) : Prop :=
  BoundLiteral settings localName values trail ∧ ¬ PassedOver values trail

def LastLiteral (statement : Node) (literal : List EnumValue → Trail → Prop) (values : List EnumValue) (trail : Trail) :
    Prop :=
  ∃ before after, Script.trails statement = before ++ trail :: after ∧ literal values trail ∧
    ∀ later ∈ after, ∀ others, ¬ literal others later

theorem enum_value_written (property : Node) (value : EnumValue) :
    enumValue? property = some value ↔ WritesValue value property := by
  simp only [enumValue?, WritesValue, Keyed, Option.bind_eq_bind, Option.bind_eq_some_iff]
  constructor
  · rintro ⟨name, key, node, valued, id, counted, same⟩
    cases same
    exact ⟨node, ⟨key, valued⟩, counted⟩
  · rintro ⟨node, ⟨key, valued⟩, counted⟩
    exact ⟨value.name, key, node, valued, value.id, counted, rfl⟩

theorem enum_values_written (properties : List Node) (values : List EnumValue) :
    enumValues? (.object properties) = some values ↔ values ≠ [] ∧ List.Forall₂ WritesValue values properties := by
  have all (properties : List Node) (values : List EnumValue) :
      properties.mapM enumValue? = some values ↔ List.Forall₂ WritesValue values properties := by
    induction properties generalizing values with
    | nil => simp [eq_comm]
    | cons property rest ih =>
        simp only [List.mapM_cons, Option.bind_eq_bind, Option.bind_eq_some_iff, Option.pure_def, Option.some.injEq,
          List.forall₂_cons_right_iff, enum_value_written, ih]
        constructor
        · rintro ⟨first, written, others, later, rfl⟩
          exact ⟨first, others, written, later, rfl⟩
        · rintro ⟨first, others, written, later, rfl⟩
          exact ⟨first, written, others, later, rfl⟩
  cases properties with
  | nil => cases values <;> simp [enumValues?]
  | cons first rest =>
      rw [enumValues?, all]
      cases values <;> simp

theorem enum_body (node : Node) (values : List EnumValue) (found : enumValues? node = some values) :
    ∃ properties, node = .object properties := by
  cases node with
  | object properties => exact ⟨properties, rfl⟩
  | _ => cases found

theorem node_named (node : Node) (name : String) : node.name? = some name ↔ node = .identifier name := by
  cases node <;> simp [Node.name?]

theorem called_node (node : Node) (called : isCall node = true) : ∃ callee arguments, node = .call callee arguments := by
  cases node with
  | call callee arguments => exact ⟨callee, arguments, rfl⟩
  | _ => cases called

theorem call_inside_binding (binder callee : Node) (arguments : List Node) (owner : String)
    (bound : bindingName? binder = some owner) (inside : .call callee arguments ∈ binder.children) :
    Builds owner arguments binder := by
  cases binder with
  | assignment operator left right =>
      obtain rfl := (node_named left owner).mp bound
      simp only [Node.children, List.mem_cons, List.not_mem_nil, or_false, reduceCtorEq, false_or] at inside
      exact inside ▸ .assigned operator callee
  | declarator name value =>
      obtain rfl := (node_named name owner).mp bound
      simp only [Node.children, List.mem_cons, Option.mem_toList, reduceCtorEq, false_or] at inside
      exact inside ▸ .declared callee
  | _ => cases bound

theorem assignment_parts (father : Node) (assignment : Assignment) (found : assignment? father = some assignment) :
    ∃ operator computed key, father = .assignment operator (.member computed assignment.target key) assignment.value := by
  unfold assignment? at found
  split at found
  · split at found
    · cases found
    · obtain ⟨_, same⟩ := Option.ite_none_right_eq_some.mp found
      cases same
      exact ⟨_, _, _, rfl⟩
  · cases found

theorem enum_values_some (node : Node) (values : List EnumValue) (read : enumValues? node = some values) : values ≠ [] := by
  obtain ⟨properties, rfl⟩ := enum_body node values read
  exact ((enum_values_written properties values).mp read).1

section Trails
variable (settings : Settings) (statement : Node)

theorem passed_over_iff (values : List EnumValue) (body father : Step) (above : Trail) :
    PassedOver values (body :: father :: above) ↔ isCall father.node = true ∧ values.head?.map (·.name) = some "" := by
  refine and_congr_left fun _ => ⟨?_, fun called => ⟨body, father, above, rfl, called⟩⟩
  rintro ⟨_, _, _, same, called⟩
  cases same
  exact called

theorem enum_owner_body (values : List EnumValue) (index place : Nat) (properties : List Node) (father : Node)
    (above : Trail) (present : ⟨index, .object properties⟩ :: ⟨place, father⟩ :: above ∈ Script.trails statement)
    (localName : String) (owned : enumOwner? settings values index father above = some localName) :
    BodyOf settings localName properties (⟨index, .object properties⟩ :: ⟨place, father⟩ :: above) ∧
      ¬ PassedOver values (⟨index, .object properties⟩ :: ⟨place, father⟩ :: above) := by
  obtain ⟨step, higher⟩ := Script.trail_above statement _ _ _ present
  have child := (Script.mem_steps_of _ _).mp step
  rw [passed_over_iff]
  unfold enumOwner? at owned
  split at owned
  · rename_i assignment assigned
    obtain ⟨spec, owner⟩ := Option.ite_none_right_eq_some.mp owned
    obtain ⟨operator, computed, key, rfl⟩ := assignment_parts father assignment assigned
    have valued : assignment.value = .object properties := by
      have inside := List.mem_of_getElem? child
      simp only [Node.children, List.mem_cons, List.not_mem_nil, or_false, reduceCtorEq, false_or] at inside
      exact inside.symm
    refine ⟨.table index place _ above ?_, fun passed => absurd passed.1 Bool.false_ne_true⟩
    rw [assigned, ← spec, ← valued, ← (node_named _ _).mp owner]
  · simp only [Option.ite_none_right_eq_some, Option.bind_eq_some_iff] at owned
    obtain ⟨⟨called, argument, named⟩, binder, head, bound⟩ := owned
    obtain ⟨callee, arguments, rfl⟩ := called_node father called
    refine ⟨?_, fun passed => named (by rw [passed.2]; rfl)⟩
    cases above with
    | nil => cases head
    | cons outer rest =>
        obtain rfl := Option.some.inj head
        obtain ⟨inner, _⟩ := Script.trail_above statement _ _ _ higher
        have builds := call_inside_binding _ callee arguments _ bound
          (List.mem_of_getElem? ((Script.mem_steps_of _ _).mp inner))
        cases index with
        | zero => exact absurd rfl argument
        | succ index =>
            exact .builder index place outer.index callee arguments outer.node rest (by simpa [Node.children] using child) builds

theorem enum_binding_iff (trail : Trail) (present : trail ∈ Script.trails statement) (localName : String)
    (values : List EnumValue) :
    enumBinding? settings trail = some (localName, values) ↔ ReadLiteral settings localName values trail := by
  constructor
  · intro bound
    unfold enumBinding? at bound
    split at bound
    · rename_i index body place father above
      simp only [Option.bind_eq_bind, Option.bind_eq_some_iff, Option.some.injEq, Prod.mk.injEq] at bound
      obtain ⟨found, counted, name, owned, rfl, rfl⟩ := bound
      obtain ⟨properties, rfl⟩ := enum_body body found counted
      obtain ⟨body, read⟩ :=
        enum_owner_body settings statement found index place properties father above present name owned
      exact ⟨⟨properties, body, counted⟩, read⟩
    · cases bound
  · rintro ⟨⟨properties, body, counted⟩, read⟩
    cases body with
    | table index place node above assigned => simp [enumBinding?, counted, enumOwner?, assigned, Node.name?]
    | builder index place outer callee arguments node above argument builds =>
        obtain ⟨first, rest, rfl⟩ := List.exists_cons_of_ne_nil (enum_values_some _ values counted)
        have named : first.name ≠ "" := fun empty => read ((passed_over_iff _ _ _ _).mpr ⟨rfl, congrArg some empty⟩)
        have bound : bindingName? node = some localName := by cases builds <;> rfl
        simp [enumBinding?, counted, enumOwner?, assignment?, isCall, named, bound]

def valuesAt? (localName : String) (trail : Trail) : Option (List EnumValue) :=
  (enumBinding? settings trail).bind fun binding => if localName = binding.1 then some binding.2 else none

theorem values_at_iff (trail : Trail) (present : trail ∈ Script.trails statement) (localName : String)
    (values : List EnumValue) :
    valuesAt? settings localName trail = some values ↔ ReadLiteral settings localName values trail := by
  rw [← enum_binding_iff settings statement trail present, valuesAt?]
  simp only [Option.bind_eq_some_iff, Option.ite_none_right_eq_some, Option.some.injEq, Prod.exists]
  constructor
  · rintro ⟨owner, found, bound, rfl, rfl⟩
    exact bound
  · intro bound
    exact ⟨localName, values, bound, rfl, rfl⟩

theorem lookup_put_values (localName : String) (trails : List Trail) (tables : List (String × List EnumValue)) :
    ((trails.filterMap (enumBinding? settings)).foldl
        (fun tables binding => Schema.putPair binding.1 binding.2 tables) tables).lookup localName =
      (trails.reverse.findSome? (valuesAt? settings localName)).or (tables.lookup localName) := by
  induction trails generalizing tables with
  | nil => rfl
  | cons trail rest ih =>
      rw [List.reverse_cons, List.findSome?_append, List.findSome?_singleton, Option.or_assoc, valuesAt?]
      cases found : enumBinding? settings trail with
      | none =>
          rw [List.filterMap_cons_none found, ih]
          rfl
      | some binding =>
          rw [List.filterMap_cons_some found, List.foldl_cons, ih, lookup_put_pair, Option.bind_some]
          by_cases here : localName = binding.1
          · rw [if_pos here, if_pos here, Option.some_or]
          · rw [if_neg here, if_neg here, Option.none_or]

theorem enum_tables_last (localName : String) (values : List EnumValue) :
    (enumTables settings statement).lookup localName = some values ↔
      ∃ trail, LastLiteral statement (ReadLiteral settings localName) values trail := by
  rw [enumTables, lookup_put_values, List.lookup_nil, Option.or_none, List.findSome?_eq_some_iff]
  have placed (trail : Trail) (present : trail ∈ Script.trails statement) :=
    values_at_iff settings statement trail present localName
  constructor
  · rintro ⟨after, trail, before, reversed, found, passed⟩
    have split : Script.trails statement = before.reverse ++ trail :: after.reverse := by
      simpa using congrArg List.reverse reversed
    refine ⟨trail, before.reverse, after.reverse, split, (placed trail (by simp [split]) values).mp found, ?_⟩
    intro later member others read
    have none := passed later (List.mem_reverse.mp member)
    rw [(placed later (by rw [split]; simp_all) others).mpr read] at none
    cases none
  · rintro ⟨trail, before, after, split, read, passed⟩
    refine ⟨after.reverse, trail, before.reverse, by simp [split], (placed trail (by simp [split]) values).mpr read, ?_⟩
    intro later member
    have behind := List.mem_reverse.mp member
    refine Option.eq_none_iff_forall_ne_some.mpr fun others found => ?_
    exact passed later behind others ((placed later (by simp [split, behind]) others).mp found)

theorem enum_tables_some (localName : String) (values : List EnumValue)
    (listed : (enumTables settings statement).lookup localName = some values) : values ≠ [] := by
  obtain ⟨_, _, _, _, ⟨⟨_, _, counted⟩, _⟩, _⟩ := (enum_tables_last settings statement localName values).mp listed
  exact enum_values_some _ values counted

theorem enum_tables_none (localName : String) :
    (enumTables settings statement).lookup localName = none ↔
      ∀ trail ∈ Script.trails statement, ∀ values, ¬ ReadLiteral settings localName values trail := by
  rw [enumTables, lookup_put_values, List.lookup_nil, Option.or_none, List.findSome?_eq_none_iff]
  simp only [List.mem_reverse, Option.eq_none_iff_forall_ne_some]
  refine forall₂_congr fun trail present => forall_congr' fun values => not_congr ?_
  exact values_at_iff settings statement trail present localName values

theorem literal_cases (trail : Trail) (present : trail ∈ Script.trails statement) (localName : String)
    (values : List EnumValue) (bound : BoundLiteral settings localName values trail) :
    ∃ properties, enumValues? (.object properties) = some values ∧ ∃ node ∈ Script.walk statement,
      assignment? node = some ⟨.identifier localName, settings.specProperty, .object properties⟩ ∨
        ∃ arguments, Builds localName arguments node ∧ .object properties ∈ arguments := by
  obtain ⟨properties, body, counted⟩ := bound
  refine ⟨properties, counted, ?_⟩
  cases body with
  | table index place node above assigned =>
      obtain ⟨_, father⟩ := Script.trail_above statement _ _ _ present
      exact ⟨node, (Script.trail_cases statement _ _ father).1, .inl assigned⟩
  | builder index place outer callee arguments node above argument builds =>
      obtain ⟨_, father⟩ := Script.trail_above statement _ _ _ present
      obtain ⟨_, binder⟩ := Script.trail_above statement _ _ _ father
      exact ⟨node, (Script.trail_cases statement _ _ binder).1, .inr ⟨arguments, builds, List.mem_of_getElem? argument⟩⟩

theorem literal_of_table (node : Node) (visited : node ∈ Script.walk statement) (localName : String)
    (properties : List Node)
    (assigned : assignment? node = some ⟨.identifier localName, settings.specProperty, .object properties⟩)
    (values : List EnumValue) (counted : enumValues? (.object properties) = some values) :
    ∃ trail ∈ Script.trails statement, ReadLiteral settings localName values trail := by
  obtain ⟨index, above, present⟩ := Script.trail_of_walk statement node visited
  obtain ⟨operator, computed, key, rfl⟩ := assignment_parts node _ assigned
  have body := Script.trail_child statement _ _ present 1 (.object properties) rfl
  refine ⟨_, body, ⟨properties, .table _ _ _ _ assigned, counted⟩, ?_⟩
  rw [passed_over_iff]
  exact fun passed => absurd passed.1 Bool.false_ne_true

theorem literal_of_builder (node : Node) (visited : node ∈ Script.walk statement) (localName : String)
    (arguments properties : List Node) (builds : Builds localName arguments node)
    (argument : Node.object properties ∈ arguments) (first : EnumValue) (rest : List EnumValue)
    (counted : enumValues? (.object properties) = some (first :: rest)) (named : first.name ≠ "") :
    ∃ trail ∈ Script.trails statement, ReadLiteral settings localName (first :: rest) trail := by
  obtain ⟨index, above, present⟩ := Script.trail_of_walk statement node visited
  obtain ⟨place, listed⟩ := List.mem_iff_getElem?.mp argument
  obtain ⟨callee, call⟩ : ∃ callee, node.children[1]? = some (.call callee arguments) := by
    cases builds with
    | declared builder => exact ⟨builder, rfl⟩
    | assigned operator builder => exact ⟨builder, rfl⟩
  have below := Script.trail_child statement _ _ present 1 _ call
  have body := Script.trail_child statement _ _ below (place + 1) (.object properties) listed
  refine ⟨_, body, ⟨properties, .builder place 1 index callee arguments node above listed builds, counted⟩, ?_⟩
  rintro ⟨_, empty⟩
  exact named (Option.some.inj empty)

theorem enum_tables_only (localName : String) (value : Option (List EnumValue))
    (same : ∀ trail ∈ Script.trails statement, ∀ values, ReadLiteral settings localName values trail → some values = value)
    (known : value = none ∨ ∃ trail ∈ Script.trails statement, ∃ values, ReadLiteral settings localName values trail) :
    (enumTables settings statement).lookup localName = value := by
  cases found : (enumTables settings statement).lookup localName with
  | some values =>
      obtain ⟨trail, before, after, split, read, _⟩ := (enum_tables_last settings statement localName values).mp found
      exact same trail (by simp [split]) values read
  | none =>
      rcases known with none | ⟨trail, present, values, read⟩
      · exact none.symm
      · exact absurd read ((enum_tables_none settings statement localName).mp found trail present values)

end Trails

section Values
variable (settings : Settings) (schema : List DefinitionSource) (statement : Node)
  (written : Written settings schema statement)
include written

theorem literal_own (source : DefinitionSource) (member : source ∈ schema) (trail : Trail)
    (present : trail ∈ Script.trails statement) (values : List EnumValue)
    (bound : BoundLiteral settings source.localName values trail) : source.body = .enum values := by
  obtain ⟨properties, counted, node, visited, place⟩ :=
    literal_cases settings statement trail present source.localName values bound
  rcases place with assigned | ⟨arguments, builds, argument⟩
  · obtain ⟨_, _, fields, groups, _, _, table⟩ := written.noOtherTable node visited _ properties assigned
    cases counted.symm.trans (table_no_enum settings fields groups properties table)
  · obtain ⟨some, writes⟩ := (enum_values_written properties values).mp counted
    exact written.noOtherBuilder source member node visited arguments builds properties argument values some writes

theorem enum_table_lookup (valid : ValidSchema settings schema) (source : DefinitionSource) (member : source ∈ schema) :
    (enumTables settings statement).lookup source.localName = source.body.values? := by
  refine enum_tables_only settings statement source.localName source.body.values? ?_ ?_
  · intro trail present values read
    rw [literal_own settings schema statement written source member trail present values read.1]
    rfl
  · cases body : source.body with
    | message fields groups => exact .inl rfl
    | enum values =>
        obtain ⟨node, visited, properties, builds, writes⟩ := written.builders source member values body
        have filled := valid.bodies source member
        rw [body] at filled
        obtain ⟨first, rest, rfl, named⟩ := filled
        have counted := (enum_values_written properties (first :: rest)).mpr ⟨List.cons_ne_nil _ _, writes⟩
        obtain ⟨trail, present, read⟩ := literal_of_builder settings statement node visited source.localName _ properties
          builds List.mem_cons_self first rest counted named
        exact .inr ⟨trail, present, _, read⟩

end Values

end SchemaRecovery.Recovery
