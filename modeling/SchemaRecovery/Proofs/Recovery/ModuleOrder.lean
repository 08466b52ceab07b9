import SchemaRecovery.Proofs.Layout.Agreement
import SchemaRecovery.Proofs.Recovery.Stages

set_option autoImplicit false

namespace SchemaRecovery.Recovery

open Schema (Catalog Definition Module Textual)
open Proto (Document Layout Rooted)

theorem find_reordered {α : Type} (key : α → String) (as bs : List α) (reordered : as.Perm bs)
    (distinct : (as.map key).Nodup) (name : String) :
    (as.find? fun item => key item = name) = bs.find? fun item => key item = name := by
  have moved : (bs.map key).Nodup := (reordered.map key).nodup_iff.mp distinct
  ext item
  rw [Schema.find_keyed_iff key as distinct, Schema.find_keyed_iff key bs moved, reordered.mem_iff]

inductive SameOutcome : Except NoOwner Catalog → Except NoOwner Catalog → Prop where
  | failed (why : NoOwner) : SameOutcome (.error why) (.error why)
  | recovered (a b : Catalog) (modules : a.modules.Perm b.modules)
      (documents : ∀ settings edition, Document.ofCatalog settings edition a = Document.ofCatalog settings edition b) :
      SameOutcome (.ok a) (.ok b)

section Order
variable (settings : Settings)

def prepared (module : Module) : Module := catalogModule settings (recordLoads module)

def preparedCatalog (catalog : Catalog) : Catalog := catalogue settings (crossReference catalog)

theorem run_all (catalog : Catalog) :
    (runStages settings Stage.all catalog).value = resolve settings (preparedCatalog settings catalog) := by
  simp only [Stage.all, runStages, Stage.run, preparedCatalog]
  split
  · rename_i failed
    rw [failed]
  · rename_i resolved
    rw [resolved]

theorem prepared_modules (catalog : Catalog) :
    (preparedCatalog settings catalog).modules = catalog.modules.map (prepared settings) := by
  simp only [preparedCatalog, catalogue, crossReference, List.map_map]
  rfl

theorem prepared_textual (catalog : Catalog) (fresh : Fresh catalog) :
    Textual (preparedCatalog settings catalog).nesting := by
  refine catalogue_textual settings (crossReference catalog) ?_
  have empty : (crossReference catalog).nesting = {} := fresh.nesting
  rw [empty]
  exact Schema.textual_empty

theorem rereads_refl (module : Module) (distinct : (module.definitions.map (·.name)).Nodup) :
    Rereads settings module module :=
  ⟨rfl, rfl, rfl, rfl, distinct, fun _ _ => rfl⟩

section Reordered
variable (as bs : List Module) (reordered : as.Perm bs) (named : (as.map (·.name)).Nodup)
include reordered named

theorem declares_reordered (name key : String) : declares as name key = declares bs name key := by
  have back : as.reverse.Perm bs.reverse := (as.reverse_perm.trans reordered).trans bs.reverse_perm.symm
  rw [declares, declares, find_reordered (·.name) _ _ back]
  rwa [List.map_reverse, List.nodup_reverse]

theorem resolve_modules_reordered (keyed : ∀ module ∈ as, (module.definitions.map (·.name)).Nodup) :
    (as.map (resolveModule settings as)).Perm (bs.map (resolveModule settings bs)) := by
  have same : as.map (resolveModule settings as) = as.map (resolveModule settings bs) := by
    refine List.map_congr_left fun module member => ?_
    exact resolve_module_rereads settings as bs (declares_reordered as bs reordered named) module module
      (rereads_refl settings module (keyed module member))
  rw [same]
  exact reordered.map _

end Reordered

theorem resolve_reordered (a b : Catalog) (reordered : a.modules.Perm b.modules)
    (named : (a.modules.map (·.name)).Nodup) (keyed : ∀ module ∈ a.modules, (module.definitions.map (·.name)).Nodup) :
    (∃ why, resolve settings a = .error why ∧ resolve settings b = .error why) ∨
      ∃ left right, resolve settings a = .ok left ∧ resolve settings b = .ok right ∧ left.modules.Perm right.modules := by
  have steps := resolve_modules_reordered settings a.modules b.modules reordered named keyed
  have tables : (Resolved.ofCatalog settings a).tables = (Resolved.ofCatalog settings b).tables :=
    reordered.foldl_eq' (fun _ _ _ _ _ => by omega) 0
  have matched : (Resolved.ofCatalog settings a).matched = (Resolved.ofCatalog settings b).matched :=
    steps.foldl_eq' (fun _ _ _ _ _ => by omega) 0
  have fails : (Resolved.ofCatalog settings a).fails = (Resolved.ofCatalog settings b).fails := by
    rw [Resolved.fails, Resolved.fails, tables, matched]
  cases failed : (Resolved.ofCatalog settings b).fails with
  | true => exact .inl ⟨_, by rw [resolve, if_pos (fails.trans failed)], by rw [resolve, if_pos failed, tables]⟩
  | false =>
      have left : ¬ (Resolved.ofCatalog settings a).fails = true := by simp [fails, failed]
      have right : ¬ (Resolved.ofCatalog settings b).fails = true := by simp [failed]
      exact .inr ⟨_, _, if_neg left, if_neg right, steps.map _⟩

section Result
variable (catalog result : Catalog) (fresh : Fresh catalog)
  (resolved : resolve settings (preparedCatalog settings catalog) = .ok result)
include resolved

theorem result_names : result.definitions.map (·.name) =
    catalog.modules.flatMap fun module => (exportedKeys settings module).reverse.eraseDups := by
  rw [Catalog.definitions, (resolve_result settings _ result resolved).1, prepared_modules, List.map_map,
    List.flatMap_map, List.map_flatMap]
  congr 1
  funext module
  have distinct := catalogued_names settings (recordLoads module)
  have kept := (resolve_module_bindings settings (preparedCatalog settings catalog).modules _ distinct).2
  have names := names_of_bindings _ _ kept
  rw [prepared_modules] at names
  exact names.trans (catalog_module_names settings (recordLoads module))

theorem result_names_distinct
    (separate : (catalog.modules.map (exportedKeys settings)).Pairwise List.Disjoint) :
    (result.definitions.map (·.name)).Nodup := by
  rw [result_names settings catalog result resolved, List.nodup_flatMap]
  refine ⟨fun module _ => Schema.erase_dups_nodup _, (List.pairwise_map.mp separate).imp ?_⟩
  intro a b apart name left right
  rw [List.mem_eraseDups, List.mem_reverse] at left right
  exact apart left right

include fresh

theorem result_rooted : Rooted result := by
  have nesting := (resolve_result settings _ result resolved).2.1
  refine Proto.textual_rooted result (fun definition member => ?_) (nesting ▸ prepared_textual settings catalog fresh)
  have listed : definition.name ∈ result.definitions.map (·.name) := List.mem_map_of_mem member
  rw [result_names settings catalog result resolved] at listed
  obtain ⟨module, _, exported⟩ := List.mem_flatMap.mp listed
  rw [List.mem_eraseDups, List.mem_reverse] at exported
  obtain ⟨assignment, present, same⟩ := List.mem_map.mp exported
  exact same ▸ export_key_named settings module.statement assignment present

end Result

/-- The order in which modules are given decides neither what becomes of them nor what is printed. -/
theorem module_order_free (a b : Catalog) (left : Fresh a) (right : Fresh b) (reordered : a.modules.Perm b.modules)
    (named : (a.modules.map (·.name)).Nodup)
    (separate : (a.modules.map (exportedKeys settings)).Pairwise List.Disjoint) :
    SameOutcome (runStages settings Stage.all a).value (runStages settings Stage.all b).value := by
  have modules : (preparedCatalog settings a).modules.Perm (preparedCatalog settings b).modules := by
    rw [prepared_modules, prepared_modules]
    exact reordered.map _
  have names : ((preparedCatalog settings a).modules.map (·.name)).Nodup := by
    rw [prepared_modules, List.map_map]
    exact named
  have keyed : ∀ module ∈ (preparedCatalog settings a).modules, (module.definitions.map (·.name)).Nodup := by
    rw [prepared_modules]
    intro module member
    obtain ⟨source, _, rfl⟩ := List.mem_map.mp member
    exact catalogued_names settings (recordLoads source)
  rw [run_all, run_all]
  rcases resolve_reordered settings _ _ modules names keyed with ⟨why, first, second⟩ | ⟨x, y, first, second, perm⟩
  · rw [first, second]
    exact .failed why
  · rw [first, second]
    refine .recovered x y perm fun usual edition => ?_
    have definitions : x.definitions.reverse.Perm y.definitions.reverse :=
      (x.definitions.reverse_perm.trans (perm.flatMap_right _)).trans y.definitions.reverse_perm.symm
    -- A document depends on the catalog only through lookups and the names around names.
    have found : Proto.findNamed x.byName = Proto.findNamed y.byName := by
      funext name
      rw [Proto.findNamed, Proto.findNamed, Schema.find_by_name, Schema.find_by_name]
      refine find_reordered (·.name) _ _ definitions ?_ name
      rw [List.map_reverse, List.nodup_reverse]
      exact result_names_distinct settings a x first separate
    have around : Proto.enclosing x.nesting = Proto.enclosing y.nesting := by
      funext name
      rw [(resolve_result settings _ x first).2.1, (resolve_result settings _ y second).2.1,
        Schema.textual_enclosing _ (prepared_textual settings a left),
        Schema.textual_enclosing _ (prepared_textual settings b right)]
    rw [Document.ofCatalog, Document.ofCatalog, Proto.layout_agree x y (result_rooted settings a x left first)
      (result_rooted settings b y right second) found around]

end Order

namespace Apart
open Hidden Report

def other : Module where
  name := "C"
  statement := .block [assign "i" "MSpec" (.identifier "k")]

def listed : Catalog := { modules := [tabled, other] }

def turned : Catalog := { modules := [other, tabled] }

theorem keys : exportedKeys {} tabled = ["N"] ∧ exportedKeys {} other = ["M"] := by
  have assignments : (Script.walk other.statement).filterMap assignment? =
      [⟨.identifier "i", "MSpec", .identifier "k"⟩] := by
    simp [Script.walk, Script.walkStack, Script.Pending.ofNode, other, assign, Script.Node.children]
    rfl
  rw [exportedKeys, exportedKeys, namedAssignments, namedAssignments, tabled_assignments, assignments]
  decide

theorem fresh : Fresh listed ∧ Fresh turned := by
  constructor <;> exact ⟨by simp [listed, turned, tabled, other], by simp [listed, turned, tabled, other], rfl, rfl⟩

theorem recovered : ∃ result, (runStages {} Stage.all listed).value = .ok result := by
  have read : prepared {} tabled = { tabled with definitions := [exported "c" "A"] } := by
    have same : recordLoads tabled = tabled := by
      rw [recordLoads, no_loads.1]
      rfl
    rw [prepared, same, catalogued_modules.1]
  have matched : (Resolved.ofCatalog {} (preparedCatalog {} listed)).matched ≠ 0 := by
    rw [Resolved.matched, Resolved.ofCatalog, prepared_modules]
    simp only [listed, List.map_cons, List.map_nil, read, resolved_modules, List.foldl_cons, List.foldl_nil]
    omega
  rw [run_all, resolve, if_neg (by simp [Resolved.fails, matched])]
  exact ⟨_, rfl⟩

end Apart

open Apart Hidden in
theorem module_order_free_apart : Fresh listed ∧ Fresh turned ∧ listed.modules.Perm turned.modules ∧
    (listed.modules.map (·.name)).Nodup ∧ (listed.modules.map (exportedKeys {})).Pairwise List.Disjoint ∧
    (∃ result, (runStages {} Stage.all listed).value = .ok result) ∧
    SameOutcome (runStages {} Stage.all listed).value (runStages {} Stage.all turned).value := by
  have reordered : listed.modules.Perm turned.modules := .swap _ _ _
  have named : (listed.modules.map (·.name)).Nodup := by decide
  have separate : (listed.modules.map (exportedKeys {})).Pairwise List.Disjoint := by
    rw [listed, List.map_cons, List.map_cons, keys.1, keys.2]
    simp
  exact ⟨fresh.1, fresh.2, reordered, named, separate, recovered,
    module_order_free {} listed turned fresh.1 fresh.2 reordered named separate⟩

end SchemaRecovery.Recovery
