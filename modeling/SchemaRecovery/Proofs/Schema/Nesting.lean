import SchemaRecovery.Proto.Layout
import SchemaRecovery.Recovery.Cataloguing
import SchemaRecovery.Proofs.Layout.WayOut

set_option autoImplicit false

namespace SchemaRecovery.Schema

open Proto (enclosing ReachesTop)

theorem lookup_pair {β : Type} (key other : String) (value : β) (pairs : List (String × β)) :
    ((key, value) :: pairs).lookup other = if other = key then some value else pairs.lookup other := by
  by_cases hit : other = key
  · simp [hit]
  · have missed : (other == key) = false := by simp [hit]
    simp [List.lookup_cons, missed, hit]

theorem lookup_put_pair {β : Type} (key other : String) (value : β) (pairs : List (String × β)) :
    (putPair key value pairs).lookup other = if other = key then some value else pairs.lookup other := by
  induction pairs with
  | nil => exact lookup_pair key other value []
  | cons pair rest ih =>
      obtain ⟨first, old⟩ := pair
      by_cases same : first = key
      · rw [putPair, if_pos same, lookup_pair, lookup_pair, same]
        split <;> rfl
      · rw [putPair, if_neg same, lookup_pair, lookup_pair, ih]
        by_cases hit : other = first
        · have different : other ≠ key := fun equal => same (hit.symm.trans equal)
          rw [if_pos hit, if_neg different, if_pos hit]
        · rw [if_neg hit, if_neg hit]

theorem path_of_register (nesting : Nesting) (key path other : String) :
    (nesting.register key path).pathOf other = if other = key then path else nesting.pathOf other := by
  simp only [Nesting.register, Nesting.pathOf, lookup_put_pair]
  split <;> simp

def Textual (nesting : Nesting) : Prop :=
  ∀ name, nesting.pathOf name = "" ∨ nesting.pathOf name = Name.nestingPath name

theorem textual_enclosing (nesting : Nesting) (textual : Textual nesting) (name : String) :
    enclosing nesting name = Name.nestingPath name := by
  rcases textual name with unregistered | registered
  · simp [enclosing, unregistered]
  · by_cases outermost : Name.nestingPath name = "" <;> simp [enclosing, registered, outermost]

theorem textual_reaches_top (nesting : Nesting) (textual : Textual nesting) (name : String) :
    ReachesTop nesting name := by
  induction bound : name.length using Nat.strongRecOn generalizing name with
  | _ size ih =>
      by_cases outermost : Name.nestingPath name = ""
      · exact ⟨1, by simpa [textual_enclosing nesting textual] using outermost⟩
      · have shorter := Name.nesting_path_shorter outermost
        obtain ⟨steps, reached⟩ := ih _ (bound ▸ shorter) (Name.nestingPath name) rfl
        refine ⟨steps + 1, ?_⟩
        rwa [Function.iterate_succ_apply, textual_enclosing nesting textual]

theorem textual_register (nesting : Nesting) (textual : Textual nesting) (key : String) :
    Textual (nesting.register key (Name.nestingPath key)) := by
  intro name
  rw [path_of_register]
  split
  · rename_i same
    exact .inr (same ▸ rfl)
  · exact textual name

theorem textual_empty : Textual {} := fun _ => .inl rfl

theorem strip_suffix_named (suffix name : String) (named : name ≠ "") : Name.stripSuffix suffix name ≠ "" := by
  unfold Name.stripSuffix
  split
  · rename_i ends
    intro empty
    have lengths := congrArg String.length empty
    have shorter := ends.2.2
    simp only [String.length_ofList, List.length_take, String.length_toList, String.length_empty] at lengths
    omega
  · exact named

end SchemaRecovery.Schema

namespace SchemaRecovery.Recovery

open Schema (Catalog Definition Module Nesting Textual textual_register strip_suffix_named)

theorem assignment_named (node : Script.Node) (assignment : Assignment)
    (found : assignment? node = some assignment) : assignment.property ≠ "" := by
  unfold assignment? at found
  split at found
  · split at found
    · cases found
    · split at found
      · rename_i conditions
        cases found
        exact conditions.2
      · cases found
  · cases found

theorem export_key_named (settings : Settings) (statement : Script.Node) (assignment : Assignment)
    (member : assignment ∈ namedAssignments settings statement) : exportKey settings assignment ≠ "" := by
  simp only [namedAssignments, List.mem_filter, List.mem_filterMap] at member
  obtain ⟨⟨node, _, found⟩, _⟩ := member
  exact strip_suffix_named _ _ (assignment_named node assignment found)

theorem linked_names (settings : Settings) (tables : List (String × List Schema.EnumValue))
    (assignments : List Assignment) (definitions : List Definition) :
    (assignments.foldl (link settings tables) definitions).map (·.name) = definitions.map (·.name) := by
  induction assignments generalizing definitions with
  | nil => rfl
  | cons assignment rest ih =>
      rw [List.foldl_cons, ih, link, List.map_map]
      apply List.map_congr_left
      intro definition _
      simp only [Function.comp_apply]
      split <;> rfl

theorem catalog_module_names (settings : Settings) (module : Module) :
    (catalogModule settings module).definitions.map (·.name) =
      ((namedAssignments settings module.statement).map (exportKey settings)).reverse.eraseDups := by
  simp [catalogModule, linked_names, shells, Function.comp_def]

theorem textual_register_all (nesting : Nesting) (keys : List String) (textual : Textual nesting) :
    Textual (keys.foldl (fun nesting key => nesting.register key (Schema.Name.nestingPath key)) nesting) := by
  induction keys generalizing nesting with
  | nil => exact textual
  | cons key rest ih => exact ih _ (textual_register nesting textual key)

theorem catalogue_textual (settings : Settings) (catalog : Catalog) (textual : Textual catalog.nesting) :
    Textual (catalogue settings catalog).nesting := by
  suffices general : ∀ (modules : List Module) (nesting : Nesting), Textual nesting →
      Textual (modules.foldl (registerModule settings) nesting) from general catalog.modules _ textual
  intro modules
  induction modules with
  | nil => intro _ textual; exact textual
  | cons module rest ih => intro nesting textual; exact ih _ (textual_register_all nesting _ textual)

theorem catalogue_named (settings : Settings) (catalog : Catalog) (definition : Definition)
    (member : definition ∈ (catalogue settings catalog).definitions) : definition.name ≠ "" := by
  simp only [catalogue, Catalog.definitions, List.mem_flatMap, List.mem_map] at member
  obtain ⟨_, ⟨module, _, rfl⟩, member⟩ := member
  have key := List.mem_map_of_mem (f := (·.name)) member
  rw [catalog_module_names, List.mem_eraseDups, List.mem_reverse] at key
  obtain ⟨assignment, named, same⟩ := List.mem_map.mp key
  exact same ▸ export_key_named settings module.statement assignment named

end SchemaRecovery.Recovery
