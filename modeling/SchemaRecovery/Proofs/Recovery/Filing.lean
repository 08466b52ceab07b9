import SchemaRecovery.Proofs.Recovery.Stages
import SchemaRecovery.Proofs.Schema.LastDefinition

set_option autoImplicit false

namespace SchemaRecovery.Recovery

open Schema (Catalog Definition LastOwned Module find_by_name_agrees find_last_iff find_last_none_iff)

def Stage.keys (settings : Settings) (catalog : Catalog) (keys : List (List String)) : Stage → List (List String)
  -- The keys of all modules after a stage, by those before it. Only the second stage files
  -- definitions anew; the third one changes them where they are.
  | crossReference => keys
  | catalogue => catalog.modules.map fun module => (exportedKeys settings module).reverse.eraseDups
  | resolve => keys

inductive Staged : Catalog → List (List String) → Prop
  | loaded (catalog : Catalog) (fresh : Fresh catalog) : Staged catalog (catalog.modules.map fun _ => [])
  | ran (settings : Settings) (stage : Stage) (catalog next : Catalog) (keys : List (List String))
      (before : Staged catalog keys) (done : stage.run settings catalog = .ok next) :
      Staged next (stage.keys settings catalog keys)

structure Filed (catalog : Catalog) (keys : List (List String)) : Prop where
  names : keys = catalog.modules.map fun module => module.definitions.map (·.name)
  distinct : ∀ module ∈ catalog.modules, (module.definitions.map (·.name)).Nodup

def filedIn (module : Module) (keys : List String) (name : String) : Option Definition :=
  (keys.zip module.definitions).lookup name

def findFiled (catalog : Catalog) (keys : List (List String)) (name : String) : Option Definition :=
  (catalog.modules.zip keys).foldl (fun found entry => filedIn entry.1 entry.2 name <|> found) none

theorem filed_loaded (catalog : Catalog) (fresh : Fresh catalog) : Filed catalog (catalog.modules.map fun _ => []) where
  names := by
    refine List.map_congr_left fun module member => ?_
    rw [fresh.definitions module member, List.map_nil]
  distinct := fresh_keyed catalog fresh

theorem filed_step (settings : Settings) (stage : Stage) (catalog next : Catalog) (keys : List (List String))
    (filed : Filed catalog keys) (done : stage.run settings catalog = .ok next) :
    Filed next (stage.keys settings catalog keys) := by
  cases stage with
  | crossReference =>
      cases done
      refine ⟨?_, fun module member => ?_⟩
      · simp only [Stage.keys, filed.names, crossReference, List.map_map]
        rfl
      · obtain ⟨source, present, rfl⟩ := List.mem_map.mp member
        exact filed.distinct source present
  | catalogue =>
      cases done
      refine ⟨?_, catalogue_keyed settings catalog⟩
      simp only [Stage.keys, exportedKeys, catalogue, List.map_map, Function.comp_def, catalog_module_names]
  | resolve =>
      obtain ⟨modules, _, _⟩ := resolve_result settings catalog next done
      refine ⟨?_, resolved_names_distinct settings catalog next filed.distinct done⟩
      rw [Stage.keys, filed.names, modules, List.map_map]
      refine List.map_congr_left fun module member => Eq.symm ?_
      have bound := (resolve_module_bindings settings catalog.modules module (filed.distinct module member)).2
      exact names_of_bindings _ _ bound

theorem filed_run (catalog : Catalog) (keys : List (List String)) (staged : Staged catalog keys) :
    Filed catalog keys := by
  induction staged with
  | loaded catalog fresh => exact filed_loaded catalog fresh
  | ran settings stage catalog next keys _ done ih => exact filed_step settings stage catalog next keys ih done

theorem staged_run (settings : Settings) (stages : List Stage) (catalog result : Catalog) (keys : List (List String))
    (staged : Staged catalog keys) (ran : (runStages settings stages catalog).value = .ok result) :
    ∃ kept, Staged result kept := by
  induction stages generalizing catalog keys with
  | nil =>
      cases ran
      exact ⟨keys, staged⟩
  | cons stage rest ih =>
      rw [runStages] at ran
      split at ran
      · cases ran
      · rename_i next done
        exact ih next _ (.ran settings stage catalog next keys staged done) ran

theorem recovered_staged (settings : Settings) (source : String) (result : Catalog)
    (recovered : (recover settings source).value = .ok result) : ∃ keys, Staged result keys := by
  simp only [recover] at recovered
  split at recovered
  · cases recovered
  · rename_i catalog loaded
    cases staged : (runStages settings Stage.all catalog).value with
    | error why => simp [staged, Except.mapError] at recovered
    | ok final =>
        obtain rfl : final = result := by simpa [staged, Except.mapError] using recovered
        have fresh := load_fresh settings source catalog loaded
        exact staged_run settings Stage.all catalog final _ (.loaded catalog fresh) staged

theorem filed_in_names (module : Module) (name : String) :
    filedIn module (module.definitions.map (·.name)) name = module.definition? name := by
  rw [filedIn, Module.definition?]
  induction module.definitions with
  | nil => rfl
  | cons first rest ih =>
      rw [List.map_cons, List.zip_cons_cons, List.lookup_cons, ih, List.find?_cons]
      by_cases here : name = first.name
      · simp [here]
      · have passed : (name == first.name) = false := by simpa using here
        simp [passed, Ne.symm here]

theorem find_filed_names (catalog : Catalog) (name : String) :
    findFiled catalog (catalog.modules.map fun module => module.definitions.map (·.name)) name = catalog.find? name := by
  rw [findFiled, Catalog.find?]
  generalize (none : Option Definition) = found
  induction catalog.modules generalizing found with
  | nil => rfl
  | cons first rest ih =>
      rw [List.map_cons, List.zip_cons_cons, List.foldl_cons, List.foldl_cons, filed_in_names]
      exact ih _

/-- Whatever stages have run, the key of a name and the name itself lead to the same definition. -/
theorem lookups_agree (catalog : Catalog) (keys : List (List String)) (staged : Staged catalog keys) (name : String) :
    Filed catalog keys ∧ findFiled catalog keys name = catalog.find? name ∧
      (catalog.byName.find? fun definition => definition.name = name) = catalog.find? name ∧
      (∀ definition, catalog.find? name = some definition ↔ LastOwned catalog name definition) ∧
      (catalog.find? name = none ↔ ∀ module ∈ catalog.modules, module.defines name = false) := by
  have filed := filed_run catalog keys staged
  refine ⟨filed, ?_, find_by_name_agrees catalog filed.distinct name, find_last_iff catalog filed.distinct name,
    find_last_none_iff catalog name⟩
  rw [filed.names, find_filed_names]

open Hidden in
theorem lookups_agree_hidden : Staged Hidden.hidden [["N"], ["N"]] ∧
    findFiled Hidden.hidden [["N"], ["N"]] "N" = some (exported "k" "B") ∧
    (Hidden.hidden.byName.find? fun definition => definition.name = "N") = some (exported "k" "B") := by
  have exports : (exportedKeys {} tabled).reverse.eraseDups = ["N"] ∧
      (exportedKeys {} untabled).reverse.eraseDups = ["N"] := by
    rw [exportedKeys, exportedKeys, ← catalog_module_names, ← catalog_module_names, catalogued_modules.1,
      catalogued_modules.2]
    exact ⟨rfl, rfl⟩
  have keys : Stage.keys {} unread (unread.modules.map fun _ => []) .catalogue = [["N"], ["N"]] := by
    rw [Stage.keys, unread, List.map_cons, List.map_cons, exports.1, exports.2, List.map_nil]
  have staged : Staged Hidden.hidden [["N"], ["N"]] := by
    have catalogued := Staged.ran {} .catalogue unread _ _ (.loaded unread unread_fresh) rfl
    rw [keys] at catalogued
    exact .ran {} .resolve _ Hidden.hidden _ catalogued hidden_resolved.1
  obtain ⟨_, byKey, byName, held, _⟩ := lookups_agree Hidden.hidden _ staged "N"
  have last : Hidden.hidden.find? "N" = some (exported "k" "B") :=
    (held (exported "k" "B")).mpr ⟨[{ tabled with definitions := [numbered] }], _, [], rfl, List.mem_cons_self, rfl,
      fun _ absent => absurd absent List.not_mem_nil⟩
  exact ⟨staged, byKey.trans last, byName.trans last⟩

end SchemaRecovery.Recovery
