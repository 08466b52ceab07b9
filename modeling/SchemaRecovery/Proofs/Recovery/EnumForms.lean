import SchemaRecovery.Proofs.Recovery.Clash

set_option autoImplicit false

namespace SchemaRecovery.Recovery

open Script (Node Trail)
open Schema (Definition EnumValue Module)

inductive Form where
  | declared
  | assigned
  | tabled
  | direct
deriving Repr, DecidableEq

inductive Binds (settings : Settings) (localName : String) : Node → Prop where
  | declared (value : Option Node) : Binds settings localName (.declarator (.identifier localName) value)
  | assigned (operator : String) (value : Node) :
      Binds settings localName (.assignment operator (.identifier localName) value)
  | tabled (node value : Node)
      (assigned : assignment? node = some ⟨.identifier localName, settings.specProperty, value⟩) :
      Binds settings localName node

inductive Binder (settings : Settings) (localName : String) (properties : List Node) : Form → Node → Prop where
  | declared (builder : Node) : Binder settings localName properties .declared
      (.declarator (.identifier localName) (some (.call builder [.object properties])))
  | assigned (builder : Node) : Binder settings localName properties .assigned
      (.assignment "=" (.identifier localName) (.call builder [.object properties]))
  | tabled (node : Node)
      (assigned : assignment? node = some ⟨.identifier localName, settings.specProperty, .object properties⟩) :
      Binder settings localName properties .tabled node

inductive Carries (settings : Settings) (properties : List Node) (statement : Node) : Form → Node → Prop where
  | named (form : Form) (localName : String) (node : Node) (visited : node ∈ Script.walk statement)
      (binder : Binder settings localName properties form node)
      (alone : ∀ other ∈ Script.walk statement, Binds settings localName other → other = node) :
      Carries settings properties statement form (.identifier localName)
  | direct (builder : Node) : Carries settings properties statement .direct (.call builder [.object properties])

theorem enum_value_none (property : Node) : enumValue? property = none ↔
    property.propertyKey? = none ∨ ∀ value, property.propertyValue? = some value → value.integer? = none := by
  cases key : property.propertyKey? with
  | none => simp [enumValue?, key]
  | some name =>
      cases valued : property.propertyValue? with
      | none => simp [enumValue?, valued]
      | some value => cases counted : value.integer? <;> simp [enumValue?, key, valued, counted]

theorem enum_values_none (properties : List Node) : enumValues? (.object properties) = none ↔
    properties = [] ∨ ∃ property ∈ properties, property.propertyKey? = none ∨
      ∀ value, property.propertyValue? = some value → value.integer? = none := by
  have all (properties : List Node) :
      properties.mapM enumValue? = none ↔ ∃ property ∈ properties, enumValue? property = none := by
    induction properties with
    | nil => simp
    | cons first rest ih =>
        rw [List.exists_mem_cons_iff, ← ih]
        cases value : enumValue? first <;> cases others : rest.mapM enumValue? <;> simp [value, others]
  cases properties with
  | nil => simp [enumValues?]
  | cons first rest => simp only [enumValues?, all, enum_value_none, List.cons_ne_nil, false_or]

section Values
variable (settings : Settings) (statement : Node) (properties : List Node)

theorem binder_body (form : Form) (localName : String) (node : Node)
    (binder : Binder settings localName properties form node) (others : List Node)
    (place : assignment? node = some ⟨.identifier localName, settings.specProperty, .object others⟩ ∨
      ∃ arguments, Builds localName arguments node ∧ .object others ∈ arguments) : others = properties := by
  cases binder with
  | declared builder =>
      rcases place with impossible | ⟨arguments, builds, argument⟩
      · cases impossible
      · cases builds
        cases List.mem_singleton.mp argument
        rfl
  | assigned builder =>
      rcases place with impossible | ⟨arguments, builds, argument⟩
      · cases impossible
      · cases builds
        cases List.mem_singleton.mp argument
        rfl
  | tabled node assigned =>
      rcases place with other | ⟨arguments, builds, argument⟩
      · cases assigned.symm.trans other
        rfl
      · cases builds <;> cases assigned

theorem place_binds (localName : String) (node : Node) (others : List Node)
    (place : assignment? node = some ⟨.identifier localName, settings.specProperty, .object others⟩ ∨
      ∃ arguments, Builds localName arguments node ∧ .object others ∈ arguments) : Binds settings localName node := by
  rcases place with assigned | ⟨arguments, builds, _⟩
  · exact .tabled node _ assigned
  · cases builds with
    | declared builder => exact .declared _
    | assigned operator builder => exact .assigned operator _

variable (named : ∀ first ∈ properties.head?, first.propertyKey? ≠ some "")
include named

theorem first_named (first : EnumValue) (rest : List EnumValue)
    (counted : enumValues? (.object properties) = some (first :: rest)) : first.name ≠ "" := by
  obtain ⟨_, written⟩ := (enum_values_written properties (first :: rest)).mp counted
  cases written with
  | cons value _ =>
      obtain ⟨node, ⟨key, _⟩, _⟩ := value
      exact fun empty => named _ rfl (empty ▸ key)

theorem binder_read (form : Form) (localName : String) (node : Node) (visited : node ∈ Script.walk statement)
    (binder : Binder settings localName properties form node) (values : List EnumValue)
    (counted : enumValues? (.object properties) = some values) :
    ∃ trail ∈ Script.trails statement, ReadLiteral settings localName values trail := by
  have built (arguments : List Node) (builds : Builds localName arguments node)
      (argument : Node.object properties ∈ arguments) :
      ∃ trail ∈ Script.trails statement, ReadLiteral settings localName values trail := by
    obtain ⟨first, rest, rfl⟩ := List.exists_cons_of_ne_nil (enum_values_some _ values counted)
    exact literal_of_builder settings statement node visited localName arguments properties builds argument first rest
      counted (first_named properties named first rest counted)
  cases binder with
  | declared builder => exact built _ (.declared builder) List.mem_cons_self
  | assigned builder => exact built _ (.assigned "=" builder) List.mem_cons_self
  | tabled node assigned => exact literal_of_table settings statement node visited localName properties assigned values counted

theorem carried_values (form : Form) (value : Node) (stands : Carries settings properties statement form value) :
    enumValuesOf (enumTables settings statement) value = enumValues? (.object properties) := by
  cases stands with
  | direct builder => rfl
  | named _ localName node visited binder alone =>
      refine enum_tables_only settings statement localName _ ?_ ?_
      · intro trail present values read
        obtain ⟨others, counted, other, seen, place⟩ := literal_cases settings statement trail present localName values read.1
        obtain rfl := alone other seen (place_binds settings localName other others place)
        rw [← counted, binder_body settings properties form localName other binder others place]
      · cases counted : enumValues? (.object properties) with
        | none => exact .inl rfl
        | some values =>
            obtain ⟨trail, present, read⟩ :=
              binder_read settings statement properties named form localName node visited binder values counted
            exact .inr ⟨trail, present, values, read⟩

end Values

theorem body_recorded (settings : Settings) (module : Module) (properties : List Node)
    (named : ∀ first ∈ properties.head?, first.propertyKey? ≠ some "") (form : Form) (exported : Assignment)
    (given : Carries settings properties module.statement form exported.value)
    (stands : Stands settings module.statement exported) :
    ∃ definition, (catalogModule settings module).definition? (exportKey settings exported) = some definition ∧
      definition.enumValues = enumValues? (.object properties) := by
  refine ⟨_, (Schema.find_keyed_iff _ _ (catalogued_names settings module) _ _).mpr
    ⟨(mem_catalogued settings module _).mpr ⟨exported, stands, rfl⟩, rfl⟩, ?_⟩
  exact carried_values settings module.statement properties named form exported.value given

/-- All forms bring the same values: those of the body, if it has any and all of its properties are
integers. -/
theorem enum_forms_alike (settings : Settings) (properties : List Node)
    (named : ∀ first ∈ properties.head?, first.propertyKey? ≠ some "") (modules : Form → Module)
    (exports : Form → Assignment)
    (given : ∀ form, Carries settings properties (modules form).statement form (exports form).value)
    (stands : ∀ form, Stands settings (modules form).statement (exports form)) :
    ∃ body : Option (List EnumValue),
      (∀ form, ∃ definition, (catalogModule settings (modules form)).definition? (exportKey settings (exports form)) =
        some definition ∧ definition.enumValues = body) ∧
      (∀ values, body = some values ↔ values ≠ [] ∧ List.Forall₂ WritesValue values properties) ∧
      (body = none ↔ properties = [] ∨ ∃ property ∈ properties, property.propertyKey? = none ∨
        ∀ value, property.propertyValue? = some value → value.integer? = none) := by
  refine ⟨enumValues? (.object properties), fun form => ?_, enum_values_written properties, enum_values_none properties⟩
  exact body_recorded settings (modules form) properties named form (exports form) (given form) (stands form)

namespace Formed
open Report (assign entry statusBody whole)

def call : Node := .call (.identifier "s") [.object statusBody]

def binder : Form → Node
  | .declared => .declarator (.identifier "l") (some call)
  | .assigned => .assignment "=" (.identifier "l") call
  | .tabled => .assignment "=" (.member false (.identifier "l") (.identifier "internalSpec")) (.object statusBody)
  | .direct => .leaf .empty

def binding (form : Form) : Node :=
  match form with
  | .declared => .variableList [binder form]
  | .direct => binder form
  | _ => .expressionStatement (binder form)

def value : Form → Node
  | .direct => call
  | _ => .identifier "l"

def formed (form : Form) : Module where
  name := "A"
  statement := .block [binding form, assign "i" "Status" (value form)]

def exported (form : Form) : Assignment := ⟨.identifier "i", "Status", value form⟩

def bindsIt (node : Node) : Bool :=
  bindingName? node = some "l" ||
    (assignment? node).any fun assignment => assignment.target.name? = some "l" && assignment.property = "internalSpec"

theorem binds_it (node : Node) (binds : Binds {} "l" node) : bindsIt node = true := by
  cases binds with
  | declared value => rfl
  | assigned operator value => rfl
  | tabled node value assigned => simp [bindsIt, assigned, Node.name?]

theorem formed_named (form : Form) : namedAssignments {} (formed form).statement = [exported form] := by
  cases form <;>
  · simp [namedAssignments, Script.walk, Script.walkStack, Script.Pending.ofNode, formed, binding, binder, value, call, assign, entry,
      whole, statusBody, Node.children]
    rfl

theorem formed_binders (form : Form) (named : form ≠ .direct) :
    binder form ∈ Script.walk (formed form).statement ∧
      (Script.walk (formed form).statement).filter bindsIt = [binder form] := by
  cases form with
  | direct => exact absurd rfl named
  | _ =>
      constructor
      · simp [Script.walk, Script.walkStack, Script.Pending.ofNode, formed, binding, binder, value, call, assign, entry, whole,
          statusBody, Node.children]
      · simp [Script.walk, Script.walkStack, Script.Pending.ofNode, formed, binding, binder, value, call, assign, entry, whole,
          statusBody, Node.children]
        rfl

theorem formed_carries (form : Form) : Carries {} statusBody (formed form).statement form (value form) := by
  have bound (named : form ≠ .direct) (binds : Binder {} "l" statusBody form (binder form)) :
      Carries {} statusBody (formed form).statement form (.identifier "l") := by
    obtain ⟨visited, only⟩ := formed_binders form named
    refine .named form "l" (binder form) visited binds fun other seen bound => ?_
    exact List.mem_singleton.mp (only ▸ List.mem_filter.mpr ⟨seen, binds_it other bound⟩)
  cases form with
  | declared => exact bound nofun (.declared _)
  | assigned => exact bound nofun (.assigned _)
  | tabled => exact bound nofun (.tabled _ rfl)
  | direct => exact .direct _

theorem formed_stands (form : Form) : Stands {} (formed form).statement (exported form) :=
  ⟨[], [], formed_named form, fun _ absent => absurd absent List.not_mem_nil⟩

end Formed

open Formed in
theorem enum_forms_alike_formed :
    (∀ first ∈ Report.statusBody.head?, first.propertyKey? ≠ some "") ∧
      (∀ form, Carries {} Report.statusBody (formed form).statement form (exported form).value) ∧
      (∀ form, Stands {} (formed form).statement (exported form)) ∧
      ∀ form, ∃ definition, (catalogModule {} (formed form)).definition? (exportKey {} (exported form)) = some definition ∧
        definition.enumValues = some [⟨"OK", 0⟩, ⟨"FAIL", -1⟩] := by
  have named : ∀ first ∈ Report.statusBody.head?, first.propertyKey? ≠ some "" := by
    intro first member
    cases member
    decide
  refine ⟨named, formed_carries, formed_stands, ?_⟩
  obtain ⟨body, recorded, counted, _⟩ :=
    enum_forms_alike {} Report.statusBody named formed exported formed_carries formed_stands
  rwa [(counted _).mpr ⟨List.cons_ne_nil _ _, Report.status_body_written⟩] at recorded

end SchemaRecovery.Recovery
