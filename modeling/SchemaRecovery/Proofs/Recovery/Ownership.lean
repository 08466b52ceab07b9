import SchemaRecovery.Proofs.Recovery.EnumBody
import SchemaRecovery.Proofs.Recovery.Settled

set_option autoImplicit false

namespace SchemaRecovery.Recovery

open Script (Node)
open Schema (Definition Module)

def FirstBound (module : Module) (localName : String) (definition : Definition) : Prop :=
  ∃ before after, module.definitions = before ++ definition :: after ∧ definition.localName = some localName ∧
    ∀ earlier ∈ before, earlier.localName ≠ some localName

def Unmatched (module : Module) (target : Node) : Prop :=
  ∀ localName, target = .identifier localName → ∀ definition ∈ module.definitions, definition.localName ≠ some localName

theorem first_bound_name (module : Module) (localName : String) (definition : Definition)
    (first : FirstBound module localName definition) : definition.localName = some localName := by
  obtain ⟨_, _, _, bound, _⟩ := first
  exact bound

theorem of_local_name_iff (module : Module) (localName : String) (definition : Definition) :
    module.ofLocalName? localName = some definition ↔ FirstBound module localName definition := by
  rw [Module.ofLocalName?, List.find?_eq_some_iff_append, decide_eq_true_eq]
  constructor
  · rintro ⟨bound, before, after, split, others⟩
    exact ⟨before, after, split, bound, by simpa using others⟩
  · rintro ⟨before, after, split, bound, others⟩
    exact ⟨bound, before, after, split, by simpa using others⟩

theorem owner_some_iff (module : Module) (table : SpecTable) (definition : Definition) :
    table.owner? module = some definition ↔
      ∃ localName, table.target = .identifier localName ∧ FirstBound module localName definition := by
  simp only [SpecTable.owner?, Option.bind_eq_bind, Option.bind_eq_some_iff, node_named, of_local_name_iff]

theorem owner_name_none_iff (module : Module) (table : SpecTable) :
    ownerName? module table = none ↔ Unmatched module table.target := by
  rw [ownerName?, Option.map_eq_none_iff, owner_none]
  simp only [node_named, Unmatched, bindings, List.forall_mem_map]

instance (module : Module) (target : Node) : Decidable (Unmatched module target) :=
  decidable_of_iff _ (owner_name_none_iff module ⟨target, []⟩)

section Module
variable (settings : Settings) (module : Module) (distinct : (module.definitions.map (·.name)).Nodup)
  (definition : Definition) (member : definition ∈ module.definitions)
include distinct member

theorem owner_name_iff (table : SpecTable) : ownerName? module table = some definition.name ↔
    ∃ localName, table.target = .identifier localName ∧ FirstBound module localName definition := by
  rw [← owner_some_iff, ownerName?, Option.map_eq_some_iff]
  constructor
  · rintro ⟨owner, found, same⟩
    have present := (owner_found table module owner found).1
    rw [found, List.inj_on_of_nodup_map distinct present member same]
  · exact fun found => ⟨definition, found, rfl⟩

theorem mem_tables_of_iff (table : SpecTable) : table ∈ tablesOf settings module definition.name ↔
    table ∈ specTables settings module.statement ∧
      ∃ localName, table.target = .identifier localName ∧ FirstBound module localName definition := by
  rw [tablesOf, List.mem_filter, decide_eq_true_eq, owner_name_iff module distinct definition member]

theorem settled_untabled (scope : Scope)
    (untabled : ∀ table ∈ specTables settings module.statement, ∀ localName, table.target = .identifier localName →
      ¬ FirstBound module localName definition) :
    settled scope (tablesOf settings module definition.name) definition = definition := by
  have none : tablesOf settings module definition.name = [] := by
    refine List.eq_nil_iff_forall_not_mem.mpr fun table received => ?_
    obtain ⟨listed, localName, target, first⟩ :=
      (mem_tables_of_iff settings module distinct definition member table).mp received
    exact untabled table listed localName target first
  rw [none, settled_nil]

end Module

end SchemaRecovery.Recovery
