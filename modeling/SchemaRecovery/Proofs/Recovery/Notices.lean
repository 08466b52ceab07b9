import SchemaRecovery.Recovery.Resolution

set_option autoImplicit false

namespace SchemaRecovery.Recovery

open Script (Node)
open Schema (Definition Field Member Warning)

def About (definition : String) (notices : List Notice) : Prop :=
  ∀ warning ∈ notices.filterMap (·.warning?), warning.definition = some definition

def tableKinds : List String := ["unrecognized_shape", "unresolved_reference", "oneof_member_missing"]

def Telling (holds : Warning → Prop) (notices : List Notice) : Prop :=
  ∀ warning ∈ notices.filterMap (·.warning?), holds warning

section
variable (holds : Warning → Prop)

theorem telling_nil : Telling holds [] := by
  intro warning member
  cases member

theorem telling_append (a b : List Notice) (first : Telling holds a) (second : Telling holds b) :
    Telling holds (a ++ b) := by
  intro warning member
  rw [List.filterMap_append, List.mem_append] at member
  exact member.elim (first warning) (second warning)

theorem telling_flat_map {α : Type} (items : List α) (noted : α → List Notice)
    (each : ∀ item ∈ items, Telling holds (noted item)) : Telling holds (items.flatMap noted) := by
  induction items with
  | nil => exact telling_nil holds
  | cons first rest ih =>
      rw [List.flatMap_cons]
      exact telling_append _ _ _ (each first List.mem_cons_self)
        (ih fun item member => each item (List.mem_cons_of_mem _ member))

variable (scope : Scope) (definition : String)
  (warned : ∀ kind ∈ tableKinds, ∀ message field, holds ⟨kind, message, some scope.module.name, some definition, field⟩)
include warned

theorem telling_warn (kind message : String) (field : Option String) (usual : kind ∈ tableKinds) :
    Telling holds [scope.warn kind message definition field] := by
  intro warning member
  rw [List.mem_filterMap] at member
  obtain ⟨notice, listed, found⟩ := member
  rw [List.mem_singleton.mp listed] at found
  cases found
  exact warned kind usual message field

theorem telling_keyless (property : Node) : Telling holds (keylessNotices scope definition property) := by
  unfold keylessNotices
  split
  · exact telling_nil holds
  · exact telling_warn holds scope definition warned _ _ _ (by decide)

theorem telling_field (field : Field) : Telling holds (fieldNotices scope definition field) := by
  unfold fieldNotices
  cases field.unresolved with
  | none => exact telling_nil holds
  | some why => exact telling_warn holds scope definition warned _ _ _ (by decide)

theorem telling_entry (property : KeyedProperty) : Telling holds (resolveEntry scope definition property).2 := by
  unfold resolveEntry
  split
  · exact telling_warn holds scope definition warned _ _ _ (by decide)
  · exact telling_field holds scope definition warned _

theorem telling_element (group : String) (grouping : Grouping) (element : Option Node)
    (before : Telling holds grouping.notices) :
    Telling holds (groupElement scope definition group grouping element).notices := by
  unfold groupElement
  dsimp only
  split
  · exact before
  · exact telling_append _ _ _ before (telling_warn holds scope definition warned _ _ _ (by decide))

theorem telling_elements (group : String) (elements : List (Option Node)) (grouping : Grouping)
    (before : Telling holds grouping.notices) :
    Telling holds (elements.foldl (groupElement scope definition group) grouping).notices := by
  induction elements generalizing grouping with
  | nil => exact before
  | cons first rest ih => exact ih _ (telling_element holds scope definition warned group grouping first before)

theorem telling_group (groups : Groups) (property : Node) (before : Telling holds groups.notices) :
    Telling holds (groupProperty scope definition groups property).notices := by
  unfold groupProperty
  split
  · rename_i name elements _
    have grouped := telling_elements holds scope definition warned name elements ⟨groups.members, [], []⟩
      (telling_nil holds)
    have both := telling_append _ _ _ before grouped
    dsimp only
    split
    · exact telling_append _ _ _ both (telling_warn holds scope definition warned _ _ _ (by decide))
    · exact both
  · exact telling_append _ _ _ before (telling_warn holds scope definition warned _ _ _ (by decide))

theorem telling_oneofs (table : List Node) (members : List Member) :
    Telling holds (groupOneofs scope definition table members).2 := by
  have all (groups : Groups) (before : Telling holds groups.notices) :
      Telling holds (table.foldl (groupProperty scope definition) groups).notices := by
    induction table generalizing groups with
    | nil => exact before
    | cons first rest ih => exact ih _ (telling_group holds scope definition warned groups first before)
  exact all ⟨members, [], []⟩ (telling_nil holds)

theorem telling_constraint (state : List Member × List Notice) (constraint : KeyedProperty)
    (before : Telling holds state.2) : Telling holds (applyConstraint scope definition state constraint).2 := by
  have ignored : Telling holds [.constraintIgnored definition constraint.key] := by
    intro warning member
    cases member
  unfold applyConstraint
  split
  · split
    · exact telling_append _ _ _ before (telling_oneofs holds scope definition warned _ _)
    · exact telling_append _ _ _ before ignored
  · exact telling_append _ _ _ before ignored

theorem telling_members (properties : List Node) : Telling holds (resolveMembers scope definition properties).2 := by
  have all (constraints : List KeyedProperty) (state : List Member × List Notice) (before : Telling holds state.2) :
      Telling holds (constraints.foldl (applyConstraint scope definition) state).2 := by
    induction constraints generalizing state with
    | nil => exact before
    | cons first rest ih => exact ih _ (telling_constraint holds scope definition warned state first before)
  refine all _ _ (telling_append _ _ _ ?_ ?_)
  · exact telling_flat_map _ _ _ fun property _ => telling_keyless holds scope definition warned property
  · refine telling_flat_map _ _ _ fun resolved member => ?_
    obtain ⟨property, _, rfl⟩ := List.mem_map.mp member
    exact telling_entry holds scope definition warned property

end

theorem telling_table (holds : Warning → Prop) (scope : Scope) (definition : Definition) (properties : List Node)
    (warned : ∀ kind ∈ tableKinds, ∀ message field,
      holds ⟨kind, message, some scope.module.name, some definition.name, field⟩) :
    Telling holds (resolveTable scope definition properties).2 := by
  unfold resolveTable
  split
  · exact telling_nil holds
  · refine telling_append _ _ _ (telling_members holds scope definition.name warned properties) ?_
    intro warning member
    cases member

theorem about_table (scope : Scope) (definition : Definition) (properties : List Node) :
    About definition.name (resolveTable scope definition properties).2 :=
  telling_table _ scope definition properties fun _ _ _ _ => rfl

theorem table_notice_kinds (scope : Scope) (definition : Definition) (properties : List Node) :
    Telling (·.kind ∈ tableKinds) (resolveTable scope definition properties).2 :=
  telling_table _ scope definition properties fun _ usual _ _ => usual

end SchemaRecovery.Recovery
