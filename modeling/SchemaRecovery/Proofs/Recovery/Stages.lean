import SchemaRecovery.Proofs.Recovery.Settled
import SchemaRecovery.Proofs.Schema.Registered
import SchemaRecovery.Recovery.Bundle

set_option autoImplicit false

namespace SchemaRecovery.Recovery

open Script (Node)
open Schema (Catalog Definition Module Nesting registerKey register_all_again)

def exportedKeys (settings : Settings) (module : Module) : List String :=
  (namedAssignments settings module.statement).map (exportKey settings)

theorem register_modules (settings : Settings) (modules : List Module) (nesting : Nesting) :
    modules.foldl (registerModule settings) nesting = (modules.flatMap (exportedKeys settings)).foldl registerKey nesting := by
  rw [List.foldl_flatMap]
  rfl

theorem cross_reference_again (catalog : Catalog) : crossReference (crossReference catalog) = crossReference catalog := by
  simp [crossReference, recordLoads, Function.comp_def]

theorem catalogue_again (settings : Settings) (catalog : Catalog) :
    catalogue settings (catalogue settings catalog) = catalogue settings catalog := by
  have keys : (catalog.modules.map (catalogModule settings)).flatMap (exportedKeys settings) =
      catalog.modules.flatMap (exportedKeys settings) := by
    rw [List.flatMap_map]
    rfl
  simp only [catalogue, register_modules, keys, register_all_again, List.map_map, Function.comp_def]
  rfl

theorem cross_reference_catalogue (settings : Settings) (catalog : Catalog) :
    crossReference (catalogue settings catalog) = catalogue settings (crossReference catalog) := by
  simp only [crossReference, catalogue, List.map_map, List.foldl_map]
  rfl

structure Fresh (catalog : Catalog) : Prop where
  loads : ∀ module ∈ catalog.modules, module.loads = []
  definitions : ∀ module ∈ catalog.modules, module.definitions = []
  nesting : catalog.nesting = {}
  warnings : catalog.warnings = []

theorem load_fresh (settings : Settings) (source : String) (catalog : Catalog)
    (loaded : (load settings source).value = .ok catalog) : Fresh catalog := by
  unfold load at loaded
  split at loaded
  · cases loaded
  · split at loaded
    · cases loaded
    · dsimp only at loaded
      split at loaded
      · cases loaded
      · cases loaded
        refine ⟨fun module member => ?_, fun module member => ?_, rfl, rfl⟩
        · obtain ⟨candidate, _, rfl⟩ := List.mem_map.mp member
          rfl
        · obtain ⟨candidate, _, rfl⟩ := List.mem_map.mp member
          rfl

structure Rereads (settings : Settings) (a b : Module) : Prop where
  name : a.name = b.name
  statement : a.statement = b.statement
  loads : a.loads = b.loads
  same : bindings a = bindings b
  distinct : (a.definitions.map (·.name)).Nodup
  reading : ∀ scope : Scope, scope.settings = settings → reading scope a = reading scope b

theorem declares_same (as bs : List Module)
    (same : List.Forall₂ (fun a b => a.name = b.name ∧ bindings a = bindings b) as bs) (name key : String) :
    declares as name key = declares bs name key := by
  have back := List.rel_reverse same
  rw [declares, declares]
  generalize as.reverse = as, bs.reverse = bs at back
  induction back with
  | nil => rfl
  | @cons a b _ _ first _ ih =>
      by_cases here : a.name = name
      · rw [List.find?_cons_of_pos (by simpa using here), List.find?_cons_of_pos (by simpa [← first.1] using here),
          Option.any_some, Option.any_some, defines_binding, defines_binding, first.2]
      · rw [List.find?_cons_of_neg (by simpa using here), List.find?_cons_of_neg (by simpa [← first.1] using here)]
        exact ih

theorem map_forall₂ {α β γ : Type} (related : α → β → Prop) (f : α → γ) (g : β → γ)
    (same : ∀ a b, related a b → f a = g b) (as : List α) (bs : List β) (pairs : List.Forall₂ related as bs) :
    as.map f = bs.map g := by
  induction pairs with
  | nil => rfl
  | cons first _ ih => rw [List.map_cons, List.map_cons, same _ _ first, ih]

theorem forall₂_source {α β : Type} (related : α → β → Prop) (as : List α) (bs : List β)
    (pairs : List.Forall₂ related as bs) (b : β) (member : b ∈ bs) : ∃ a ∈ as, related a b := by
  induction pairs with
  | nil => cases member
  | @cons a _ _ _ first _ ih =>
      rcases List.mem_cons.mp member with rfl | later
      · exact ⟨a, List.mem_cons_self, first⟩
      · obtain ⟨source, present, same⟩ := ih later
        exact ⟨source, List.mem_cons_of_mem _ present, same⟩

theorem reading_again (before after : Scope) (a b : Module) (statement : a.statement = b.statement)
    (usual : before.settings = after.settings) (read : a.definitions = reading before b) :
    reading after a = reading after b := by
  have same : bindings a = bindings b := by
    rw [← reading_bindings before b, ← read]
    rfl
  have tables := tables_of_same after.settings a b statement same
  rw [reading, read]
  simp only [reading, tables, usual, List.map_map, Function.comp_def, settled_name, settled_again]

theorem reading_same (scope : Scope) (a b : Module) (statement : a.statement = b.statement)
    (definitions : a.definitions = b.definitions) : reading scope a = reading scope b := by
  have same : bindings a = bindings b := by rw [bindings, bindings, definitions]
  have tables := tables_of_same scope.settings a b statement same
  rw [reading, reading, definitions]
  simp only [tables]

section Again
variable (settings : Settings)

theorem resolve_module_rereads (as bs : List Module) (around : ∀ name key, declares as name key = declares bs name key)
    (a b : Module) (rereads : Rereads settings a b) : resolveModule settings as a = resolveModule settings bs b := by
  have alike : Alike ⟨settings, as, a⟩ ⟨settings, bs, b⟩ :=
    alike_of_bindings _ _ rfl rereads.name rereads.loads rereads.same around
  have definitions : reading ⟨settings, as, a⟩ a = reading ⟨settings, bs, b⟩ b :=
    (rereads.reading _ rfl).trans (reading_alike _ _ alike b)
  have owner := owner_name_same a b rereads.same
  have notices : tableNotices ⟨settings, as, a⟩ = tableNotices ⟨settings, bs, b⟩ := by
    funext table
    simp only [tableNotices, owner, rereads.name, resolve_table_alike _ _ alike]
  rw [resolve_module_settled settings as a rereads.distinct,
    resolve_module_settled settings bs b (names_of_bindings _ _ rereads.same ▸ rereads.distinct)]
  simp only [rereads.name, rereads.statement, rereads.loads, definitions, owner, notices]

theorem rereads_resolved (modules : List Module) (module : Module) (distinct : (module.definitions.map (·.name)).Nodup) :
    Rereads settings module (resolveModule settings modules module).module := by
  have bound := (resolve_module_bindings settings modules module distinct).2
  have settled := resolve_module_settled settings modules module distinct
  refine ⟨?_, ?_, ?_, bound.symm, distinct, fun scope usual => Eq.symm ?_⟩
  · rw [settled]
  · rw [settled]
  · rw [settled]
  · refine reading_again ⟨settings, modules, module⟩ scope _ module ?_ usual.symm ?_
    · rw [settled]
    · rw [settled]

theorem resolved_rereads (a b : Catalog) (rereads : List.Forall₂ (Rereads settings) a.modules b.modules) :
    Resolved.ofCatalog settings a = Resolved.ofCatalog settings b := by
  have around := declares_same a.modules b.modules (rereads.imp fun _ _ related => ⟨related.name, related.same⟩)
  have tables : a.modules.map (fun module => (specTables settings module.statement).length) =
      b.modules.map fun module => (specTables settings module.statement).length :=
    map_forall₂ _ _ _ (fun _ _ related => by rw [related.statement]) _ _ rereads
  have steps : a.modules.map (resolveModule settings a.modules) = b.modules.map (resolveModule settings b.modules) :=
    map_forall₂ _ _ _ (resolve_module_rereads settings _ _ around) _ _ rereads
  have total (catalog : Catalog) : (Resolved.ofCatalog settings catalog).tables =
      (catalog.modules.map fun module => (specTables settings module.statement).length).foldl (· + ·) 0 := by
    rw [List.foldl_map]
    rfl
  exact congrArg₂ Resolved.mk ((total a).trans (tables ▸ (total b).symm)) steps

theorem resolve_same (a b result : Catalog) (same : Resolved.ofCatalog settings a = Resolved.ofCatalog settings b)
    (resolved : resolve settings a = .ok result) : ∃ other appended, resolve settings b = .ok other ∧
      other.modules = result.modules ∧ result.nesting = a.nesting ∧ other.nesting = b.nesting ∧
      result.warnings = a.warnings ++ appended ∧ other.warnings = b.warnings ++ appended := by
  simp only [resolve] at resolved ⊢
  rw [← same]
  split at resolved
  · cases resolved
  · rename_i passed
    cases resolved
    exact ⟨_, _, if_neg passed, rfl, rfl, rfl, rfl, rfl⟩

end Again

structure ModuleAfter (settings : Settings) (stages : List Stage) (origin now : Module) : Prop where
  -- What is left of a module as it was loaded once some stages have run.
  name : now.name = origin.name
  statement : now.statement = origin.statement
  distinct : (now.definitions.map (·.name)).Nodup
  loads : .crossReference ∈ stages → now.loads = loads origin.statement
  same : .catalogue ∈ stages → bindings now = bindings (catalogModule settings origin)
  reading : .catalogue ∈ stages → ∀ scope : Scope, scope.settings = settings →
    reading scope now = reading scope (catalogModule settings origin)

structure After (settings : Settings) (stages : List Stage) (origin now : Catalog) : Prop where
  modules : List.Forall₂ (ModuleAfter settings stages) origin.modules now.modules
  nesting : now.nesting = if .catalogue ∈ stages then (catalogue settings origin).nesting else origin.nesting

section After
variable (settings : Settings)

theorem after_start (origin : Catalog) (keyed : ∀ module ∈ origin.modules, (module.definitions.map (·.name)).Nodup) :
    After settings [] origin origin where
  modules := by
    refine List.forall₂_same.mpr fun module member => ⟨rfl, rfl, keyed module member, ?_, ?_, ?_⟩
    · exact fun absent => absurd absent List.not_mem_nil
    · exact fun absent => absurd absent List.not_mem_nil
    · exact fun absent => absurd absent List.not_mem_nil
  nesting := rfl

theorem fresh_keyed (origin : Catalog) (fresh : Fresh origin) :
    ∀ module ∈ origin.modules, (module.definitions.map (·.name)).Nodup := by
  intro module member
  rw [fresh.definitions module member]
  exact List.nodup_nil

theorem fresh_after (origin : Catalog) (fresh : Fresh origin) : After settings [] origin origin :=
  after_start settings origin (fresh_keyed origin fresh)

theorem catalog_module_same (a b : Module) (name : a.name = b.name) (statement : a.statement = b.statement) :
    (catalogModule settings a).definitions = (catalogModule settings b).definitions := by
  simp only [catalogModule, name, statement]

section Modules
variable (stages : List Stage) (origin now : Module) (after : ModuleAfter settings stages origin now)
include after

theorem module_after_loads : ModuleAfter settings (stages ++ [.crossReference]) origin (recordLoads now) where
  name := after.name
  statement := after.statement
  distinct := after.distinct
  loads _ := congrArg loads after.statement
  same ran := after.same (by simpa using ran)
  reading ran := after.reading (by simpa using ran)

theorem module_after_catalogue : ModuleAfter settings (stages ++ [.catalogue]) origin (catalogModule settings now) where
  name := after.name
  statement := after.statement
  distinct := catalogued_names settings now
  loads ran := after.loads (by simpa using ran)
  same _ := by rw [bindings, bindings, catalog_module_same settings now origin after.name after.statement]
  reading _ scope _ :=
    reading_same scope (catalogModule settings now) (catalogModule settings origin) after.statement
      (catalog_module_same settings now origin after.name after.statement)

theorem module_after_resolve (modules : List Module) :
    ModuleAfter settings (stages ++ [.resolve]) origin (resolveModule settings modules now).module := by
  have rereads := rereads_resolved settings modules now after.distinct
  refine ⟨rereads.name.symm.trans after.name, rereads.statement.symm.trans after.statement,
    names_of_bindings _ _ rereads.same ▸ after.distinct, fun ran => ?_, fun ran => ?_, fun ran scope usual => ?_⟩
  · exact rereads.loads.symm.trans (after.loads (by simpa using ran))
  · exact rereads.same.symm.trans (after.same (by simpa using ran))
  · exact (rereads.reading scope usual).symm.trans (after.reading (by simpa using ran) scope usual)

end Modules

theorem after_catalogue_nesting (stages : List Stage) (origin now : Catalog) (after : After settings stages origin now) :
    (catalogue settings now).nesting = (catalogue settings origin).nesting := by
  have keys : now.modules.flatMap (exportedKeys settings) = origin.modules.flatMap (exportedKeys settings) := by
    rw [List.flatMap, List.flatMap]
    congr 1
    refine (map_forall₂ _ _ _ ?_ _ _ after.modules).symm
    intro a b related
    rw [exportedKeys, exportedKeys, related.statement]
  simp only [catalogue, register_modules, keys, after.nesting]
  split
  · exact register_all_again _ _
  · rfl

theorem after_step (stages : List Stage) (stage : Stage) (origin now next : Catalog)
    (after : After settings stages origin now) (ran : stage.run settings now = .ok next) :
    After settings (stages ++ [stage]) origin next := by
  cases stage with
  | crossReference =>
      cases ran
      refine ⟨List.forall₂_map_right_iff.mpr (after.modules.imp (module_after_loads settings stages)), ?_⟩
      simpa [crossReference] using after.nesting
  | catalogue =>
      cases ran
      refine ⟨List.forall₂_map_right_iff.mpr (after.modules.imp (module_after_catalogue settings stages)), ?_⟩
      rw [if_pos (by simp), after_catalogue_nesting settings stages origin now after]
  | resolve =>
      obtain ⟨modules, nesting, _⟩ := resolve_result settings now next ran
      refine ⟨?_, by simpa [nesting] using after.nesting⟩
      rw [modules]
      exact List.forall₂_map_right_iff.mpr
        (after.modules.imp fun a b related => module_after_resolve settings stages a b related now.modules)

theorem after_run (before stages : List Stage) (origin now result : Catalog) (after : After settings before origin now)
    (ran : (runStages settings stages now).value = .ok result) : After settings (before ++ stages) origin result := by
  induction stages generalizing before now with
  | nil =>
      cases ran
      rwa [List.append_nil]
  | cons stage rest ih =>
      rw [runStages] at ran
      split at ran
      · cases ran
      · rename_i next stepped
        rw [List.append_cons]
        exact ih _ next (after_step settings before stage origin now next after stepped) ran

theorem after_distinct (stages : List Stage) (origins modules : List Module)
    (after : List.Forall₂ (ModuleAfter settings stages) origins modules) :
    ∀ module ∈ modules, (module.definitions.map (·.name)).Nodup := by
  intro module member
  obtain ⟨_, _, related⟩ := forall₂_source _ _ _ after module member
  exact related.distinct

theorem run_append (before stages : List Stage) (now result : Catalog)
    (ran : (runStages settings (before ++ stages) now).value = .ok result) :
    ∃ between, (runStages settings before now).value = .ok between ∧
      (runStages settings stages between).value = .ok result := by
  induction before generalizing now with
  | nil => exact ⟨now, rfl, ran⟩
  | cons stage rest ih =>
      rw [List.cons_append, runStages] at ran
      split at ran
      · cases ran
      · rename_i next stepped
        rw [runStages, stepped]
        exact ih next ran

theorem rereads_of_after (a b : List Stage) (origin left right : Catalog) (first : After settings a origin left)
    (second : After settings b origin right) (loadsLeft : .crossReference ∈ a) (loadsRight : .crossReference ∈ b)
    (namesLeft : .catalogue ∈ a) (namesRight : .catalogue ∈ b) :
    List.Forall₂ (Rereads settings) left.modules right.modules := by
  -- With both other stages behind them, two runs leave modules that read their tables alike.
  have related (x y : Module) : Relation.Comp (flip (ModuleAfter settings a)) (ModuleAfter settings b) x y →
      Rereads settings x y := by
    rintro ⟨origin, first, second⟩
    refine ⟨first.name.trans second.name.symm, first.statement.trans second.statement.symm,
      (first.loads loadsLeft).trans (second.loads loadsRight).symm,
      (first.same namesLeft).trans (second.same namesRight).symm, first.distinct, fun scope usual => ?_⟩
    exact (first.reading namesLeft scope usual).trans (second.reading namesRight scope usual).symm
  have pairs (origins lefts rights : List Module) (first : List.Forall₂ (ModuleAfter settings a) origins lefts)
      (second : List.Forall₂ (ModuleAfter settings b) origins rights) :
      List.Forall₂ (Rereads settings) lefts rights := by
    induction first generalizing rights with
    | nil =>
        cases second
        exact .nil
    | cons here _ ih =>
        cases second with
        | cons there later => exact .cons (related _ _ ⟨_, here, there⟩) (ih _ later)
  exact pairs _ _ _ first.modules second.modules

end After

/-- Whatever ran before, a reading of all tables that comes after both other stages gives the
modules of the usual run; each of these stages does nothing the second time, and neither looks at
what the other does. -/
theorem stage_algebra (settings : Settings) (loaded : Catalog) (fresh : Fresh loaded) :
    (∀ stages result, (runStages settings (stages ++ [.resolve]) loaded).value = .ok result →
      .crossReference ∈ stages → .catalogue ∈ stages →
      ∃ canonical, (runStages settings Stage.all loaded).value = .ok canonical ∧
        result.modules = canonical.modules ∧ result.nesting = canonical.nesting) ∧
    ∀ stages state, (runStages settings stages loaded).value = .ok state →
      crossReference (crossReference state) = crossReference state ∧
      catalogue settings (catalogue settings state) = catalogue settings state ∧
      crossReference (catalogue settings state) = catalogue settings (crossReference state) ∧
      ∀ once, resolve settings state = .ok once → ∃ twice appended, resolve settings once = .ok twice ∧
        twice.modules = once.modules ∧ twice.nesting = once.nesting ∧
        once.warnings = state.warnings ++ appended ∧ twice.warnings = once.warnings ++ appended := by
  have start := fresh_after settings loaded fresh
  constructor
  · intro stages result ran crossed catalogued
    obtain ⟨last, before, resolved⟩ := run_append settings stages [.resolve] loaded result ran
    have after := after_run settings [] stages loaded loaded last start before
    have usual := after_run settings [] [.crossReference, .catalogue] loaded loaded
      (catalogue settings (crossReference loaded)) start rfl
    -- Both runs have done the first two stages, in whatever order and number.
    have rereads := rereads_of_after settings stages [.crossReference, .catalogue] loaded last _ after usual crossed
      (by simp) catalogued (by simp)
    have stepped : resolve settings last = .ok result := by
      simp only [runStages, Stage.run] at resolved
      split at resolved
      · cases resolved
      · cases resolved
        assumption
    obtain ⟨canonical, _, done, modules, before, same, _⟩ :=
      resolve_same settings _ _ result (resolved_rereads settings _ _ rereads) stepped
    refine ⟨canonical, ?_, modules.symm, ?_⟩
    · simp only [Stage.all, runStages, Stage.run, done]
    · rw [before, same, after.nesting, usual.nesting, if_pos (by simpa using catalogued), if_pos (by simp)]
  · intro stages state ran
    refine ⟨cross_reference_again state, catalogue_again settings state, cross_reference_catalogue settings state, ?_⟩
    intro once resolved
    have after := after_run settings [] stages loaded loaded state start ran
    have rereads : List.Forall₂ (Rereads settings) state.modules once.modules := by
      rw [(resolve_result settings state once resolved).1, List.forall₂_map_right_iff, List.forall₂_same]
      intro module member
      exact rereads_resolved settings state.modules module (after_distinct settings stages _ _ after.modules module member)
    obtain ⟨twice, appended, done, modules, before, nesting, first, second⟩ :=
      resolve_same settings _ _ once (resolved_rereads settings _ _ rereads) resolved
    exact ⟨twice, appended, done, modules, nesting, first, second⟩

namespace Hidden
open Report

theorem no_loads : loads tabled.statement = [] ∧ loads untabled.statement = [] := by
  constructor
  · simp [loads, Script.walk, Script.walkStack, Script.Pending.ofNode, tabled, assign, numberTable, entry, token, whole,
      Node.children]
    decide
  · simp [loads, Script.walk, Script.walkStack, Script.Pending.ofNode, untabled, assign, Node.children]
    decide

def unread : Catalog := { modules := [tabled, untabled] }

theorem unread_fresh : Fresh unread :=
  ⟨by simp [unread, tabled, untabled], by simp [unread, tabled, untabled], rfl, rfl⟩

end Hidden

open Hidden in
theorem stage_algebra_hidden : Fresh unread ∧ ∃ result canonical,
    (runStages {} ([.catalogue, .resolve, .crossReference] ++ [.resolve]) unread).value = .ok result ∧
      (runStages {} Stage.all unread).value = .ok canonical ∧ result.modules = canonical.modules ∧
      result.nesting = canonical.nesting ∧ result.modules = Hidden.hidden.modules := by
  obtain ⟨usual, laws⟩ := stage_algebra {} unread unread_fresh
  obtain ⟨_, _, _, again⟩ := laws [.catalogue] (catalogue {} unread) rfl
  obtain ⟨result, _, done, modules, _⟩ := again Hidden.hidden hidden_resolved.1
  have crossed : crossReference Hidden.hidden = Hidden.hidden := by
    have tabled : recordLoads { tabled with definitions := [numbered] } = { tabled with definitions := [numbered] } := by
      rw [recordLoads, no_loads.1]
      rfl
    have untabled : recordLoads { untabled with definitions := [exported "k" "B"] } =
        { untabled with definitions := [exported "k" "B"] } := by
      rw [recordLoads, no_loads.2]
      rfl
    rw [crossReference, Hidden.hidden, List.map_cons, List.map_cons, tabled, untabled, List.map_nil]
  have first : resolve {} (catalogue {} unread) = .ok Hidden.hidden := hidden_resolved.1
  have ran : (runStages {} ([.catalogue, .resolve, .crossReference] ++ [.resolve]) unread).value = .ok result := by
    simp only [List.cons_append, List.nil_append, runStages, Stage.run, first, crossed, done]
  obtain ⟨canonical, all, same, nesting⟩ := usual _ result ran (by simp) (by simp)
  exact ⟨unread_fresh, result, canonical, ran, all, same, nesting, modules⟩

end SchemaRecovery.Recovery
