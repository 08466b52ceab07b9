import SchemaRecovery.Proofs.Recovery.Catalogued

set_option autoImplicit false

namespace SchemaRecovery.Recovery

open Script (Node)
open Schema (Definition EnumValue Module)

def Stands (settings : Settings) (statement : Node) (assignment : Assignment) : Prop :=
  ∃ before after, namedAssignments settings statement = before ++ assignment :: after ∧
    ∀ later ∈ after, exportKey settings later ≠ exportKey settings assignment

def lastExport? (settings : Settings) (assignments : List Assignment) (key : String) : Option Assignment :=
  assignments.reverse.find? fun assignment => exportKey settings assignment = key

def linkedBy (settings : Settings) (tables : List (String × List EnumValue)) (assignments : List Assignment)
    (base : Definition) : Definition :=
  match lastExport? settings assignments base.name with
  | none => base
  | some assignment => linkDefinition tables assignment.value base

theorem last_export_cons (settings : Settings) (first : Assignment) (rest : List Assignment) (key : String) :
    lastExport? settings (first :: rest) key =
      (lastExport? settings rest key).or (if exportKey settings first = key then some first else none) := by
  rw [lastExport?, lastExport?, List.reverse_cons, List.find?_append]
  by_cases same : exportKey settings first = key <;> simp [same]

theorem link_all (settings : Settings) (tables : List (String × List EnumValue)) (assignments : List Assignment)
    (definitions : List Definition) :
    assignments.foldl (link settings tables) definitions = definitions.map (linkedBy settings tables assignments) := by
  induction assignments generalizing definitions with
  | nil => exact (List.map_id definitions).symm
  | cons first rest ih =>
      rw [List.foldl_cons, ih, link, List.map_map]
      refine List.map_congr_left fun base _ => ?_
      rw [Function.comp_apply, linkedBy, linkedBy, last_export_cons]
      by_cases same : base.name = exportKey settings first
      · rw [if_pos same, if_pos same.symm]
        have named : (linkDefinition tables first.value base).name = base.name := rfl
        rw [named]
        cases lastExport? settings rest base.name with
        | none => rfl
        | some later => exact link_again tables later.value first.value base
      · rw [if_neg same, if_neg (Ne.symm same), Option.or_none]

theorem last_export_stands (settings : Settings) (statement : Node) (key : String) (assignment : Assignment) :
    lastExport? settings (namedAssignments settings statement) key = some assignment ↔
      exportKey settings assignment = key ∧ Stands settings statement assignment := by
  rw [lastExport?, List.find?_eq_some_iff_append, decide_eq_true_eq]
  refine and_congr_right fun named => ?_
  subst named
  constructor
  · rintro ⟨after, before, split, others⟩
    refine ⟨before.reverse, after.reverse, ?_, fun later member same => ?_⟩
    · simpa using congrArg List.reverse split
    · simpa [same] using others later (List.mem_reverse.mp member)
  · rintro ⟨before, after, split, others⟩
    refine ⟨after.reverse, before.reverse, by simp [split], fun later member => ?_⟩
    simpa using others later (List.mem_reverse.mp member)

def exportedShell (moduleName key : String) : Definition :=
  { name := key, nestingPath := Schema.Name.nestingPath key, module := some moduleName }

theorem mem_catalogued (settings : Settings) (module : Module) (definition : Definition) :
    definition ∈ (catalogModule settings module).definitions ↔ ∃ assignment, Stands settings module.statement assignment ∧
      definition = linkDefinition (enumTables settings module.statement) assignment.value
        (exportedShell module.name (exportKey settings assignment)) := by
  simp only [catalogModule, link_all, shells, List.mem_map, List.mem_eraseDups, List.mem_reverse]
  constructor
  · rintro ⟨base, ⟨key, ⟨assignment, listed, rfl⟩, rfl⟩, rfl⟩
    have found : (lastExport? settings (namedAssignments settings module.statement)
        (exportKey settings assignment)).isSome := by
      rw [lastExport?, List.find?_isSome]
      exact ⟨assignment, List.mem_reverse.mpr listed, by simp⟩
    obtain ⟨last, here⟩ := Option.isSome_iff_exists.mp found
    obtain ⟨same, stands⟩ := (last_export_stands settings module.statement _ last).mp here
    refine ⟨last, stands, ?_⟩
    rw [linkedBy, here, same]
    rfl
  · rintro ⟨assignment, stands, rfl⟩
    have here := (last_export_stands settings module.statement _ assignment).mpr ⟨rfl, stands⟩
    obtain ⟨before, after, split, _⟩ := stands
    refine ⟨_, ⟨_, ⟨assignment, by simp [split], rfl⟩, rfl⟩, ?_⟩
    rw [linkedBy, here]
    rfl

end SchemaRecovery.Recovery
