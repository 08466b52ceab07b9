import Mathlib.Data.List.Induction
import SchemaRecovery.Proofs.Schema.Distinct
import SchemaRecovery.Proofs.Schema.Nesting

set_option autoImplicit false

namespace SchemaRecovery.Schema

inductive Change where
  | register (key path : String)
  | copied
deriving Repr, DecidableEq

namespace Change

def apply (nesting : Nesting) : Change → Nesting
  | register key path => nesting.register key path
  | copied => { paths := nesting.paths, links := nesting.links }

end Change

def grown (changes : List Change) : Nesting := changes.foldl Change.apply {}

def LastUnder (changes : List Change) (key path : String) : Prop :=
  ∃ before after, changes = before ++ .register key path :: after ∧ ∀ other, .register key other ∉ after

def InStep (nesting : Nesting) : Prop :=
  ∀ key path, path ≠ "" → (key ∈ nesting.childrenOf path ↔ nesting.pathOf key = path)

theorem mem_children (nesting : Nesting) (key path : String) :
    key ∈ nesting.childrenOf path ↔ (path, key) ∈ nesting.links := by
  simp [Nesting.childrenOf]

theorem mem_links_register (nesting : Nesting) (key path : String) (link : String × String) (named : link.1 ≠ "") :
    link ∈ (nesting.register key path).links ↔ link ∈ nesting.links ∨ link = (path, key) := by
  simp only [Nesting.register]
  split
  · rename_i known
    refine ⟨.inl, fun either => either.elim id ?_⟩
    rintro rfl
    exact known.resolve_left named
  · rw [List.mem_append, List.mem_singleton]

theorem grown_snoc (changes : List Change) (last : Change) : grown (changes ++ [last]) = last.apply (grown changes) := by
  rw [grown, List.foldl_append]
  rfl

section
variable (changes : List Change) (key path : String)

theorem last_under_snoc (last : Change) : LastUnder (changes ++ [last]) key path ↔
    last = .register key path ∨ LastUnder changes key path ∧ ∀ other, last ≠ .register key other := by
  constructor
  · rintro ⟨before, after, split, others⟩
    rcases List.eq_nil_or_concat after with rfl | ⟨between, final, rfl⟩
    · obtain ⟨_, same⟩ := List.append_inj' split rfl
      exact .inl (List.cons.inj same).1
    · rw [List.concat_eq_append, ← List.cons_append, ← List.append_assoc] at split
      obtain ⟨earlier, same⟩ := List.append_inj' split rfl
      obtain rfl := (List.cons.inj same).1
      simp only [List.concat_eq_append, List.mem_append, List.mem_singleton, not_or] at others
      exact .inr ⟨⟨before, between, earlier, fun other => (others other).1⟩, fun other same => (others other).2 same.symm⟩
  · rintro (rfl | ⟨⟨before, after, rfl, others⟩, different⟩)
    · exact ⟨changes, [], rfl, fun _ => List.not_mem_nil⟩
    · refine ⟨before, after ++ [last], by simp, fun other member => ?_⟩
      rcases List.mem_append.mp member with earlier | final
      · exact others other earlier
      · exact different other (List.mem_singleton.mp final).symm

theorem last_under_registered (last : LastUnder changes key path) : .register key path ∈ changes := by
  obtain ⟨before, after, rfl, _⟩ := last
  simp

variable (named : path ≠ "")
include named

theorem mem_children_grown : key ∈ (grown changes).childrenOf path ↔ .register key path ∈ changes := by
  rw [mem_children]
  induction changes using List.reverseRecOn with
  | nil => exact iff_of_false List.not_mem_nil List.not_mem_nil
  | append_singleton before last ih =>
      rw [grown_snoc, List.mem_append, List.mem_singleton, ← ih]
      cases last with
      | register other under =>
          rw [Change.apply, mem_links_register _ _ _ _ named]
          simp [and_comm]
      | copied => simp [Change.apply]

theorem path_of_grown : (grown changes).pathOf key = path ↔ LastUnder changes key path := by
  induction changes using List.reverseRecOn with
  | nil =>
      refine iff_of_false (fun same => named same.symm) fun last => ?_
      exact absurd (last_under_registered [] key path last) List.not_mem_nil
  | append_singleton before last ih =>
      rw [grown_snoc, last_under_snoc, ← ih]
      cases last with
      | register other under =>
          rw [Change.apply, path_of_register]
          by_cases same : key = other
          · simp [same, eq_comm]
          · simp [same, Ne.symm same]
      | copied => simp [Change.apply]

/-- The two tell the same of a key and a path unless the key was under the path and has moved since. -/
theorem children_in_step_iff :
    (key ∈ (grown changes).childrenOf path ↔ .register key path ∈ changes) ∧
      ((grown changes).pathOf key = path ↔ LastUnder changes key path) ∧
      ((key ∈ (grown changes).childrenOf path ↔ (grown changes).pathOf key = path) ↔
        (.register key path ∈ changes → LastUnder changes key path)) ∧
      ((grown changes).childrenOf path).Pairwise (· < ·) := by
  have child := mem_children_grown changes key path named
  have last := path_of_grown changes key path named
  refine ⟨child, last, ?_, sorted_names_strict _⟩
  rw [child, last]
  exact ⟨Iff.mp, fun kept => ⟨kept, last_under_registered changes key path⟩⟩

end

theorem moved_key_child : ¬ InStep (grown [.register "A$B" "A", .register "A$B" "X"]) := by
  -- A key that is registered under another path stays a child of the first one.
  intro inStep
  have child : "A$B" ∈ (grown [.register "A$B" "A", .register "A$B" "X"]).childrenOf "A" := by
    rw [mem_children]
    decide
  exact absurd ((inStep "A$B" "A" (by decide)).mp child) (by decide)

theorem children_in_step_iff_moved : "X" ≠ "" ∧
    "A$B" ∈ (grown [.register "A$B" "A", .copied, .register "A$B" "X"]).childrenOf "X" ∧
    (grown [.register "A$B" "A", .copied, .register "A$B" "X"]).pathOf "A$B" = "X" := by
  obtain ⟨child, path, _⟩ :=
    children_in_step_iff [.register "A$B" "A", .copied, .register "A$B" "X"] "A$B" "X" (by decide)
  exact ⟨by decide, child.mpr (by decide), path.mpr ⟨[.register "A$B" "A", .copied], [], rfl, by simp⟩⟩

theorem in_step_register (nesting : Nesting) (key path : String) (inStep : InStep nesting)
    (still : nesting.pathOf key = "" ∨ nesting.pathOf key = path) : InStep (nesting.register key path) := by
  intro other under named
  have before := inStep other under named
  rw [mem_children] at before ⊢
  rw [mem_links_register _ _ _ _ named, path_of_register, before, Prod.mk.injEq]
  by_cases same : other = key
  · rw [if_pos same, same]
    rcases still with unregistered | registered
    · simp [unregistered, Ne.symm named, eq_comm]
    · simp [registered, eq_comm]
  · simp [same]

end SchemaRecovery.Schema

namespace SchemaRecovery.Recovery

open Schema (Catalog InStep Module Nesting Textual in_step_register textual_register)

theorem catalogue_in_step (settings : Settings) (origin : Catalog) (textual : Textual origin.nesting)
    (inStep : InStep origin.nesting) : InStep (catalogue settings origin).nesting := by
  have keys (keys : List String) (nesting : Nesting) (textual : Textual nesting) (inStep : InStep nesting) :
      InStep (keys.foldl (fun nesting key => nesting.register key (Schema.Name.nestingPath key)) nesting) := by
    induction keys generalizing nesting with
    | nil => exact inStep
    | cons key rest ih => exact ih _ (textual_register nesting textual key) (in_step_register _ _ _ inStep (textual key))
  have modules (modules : List Module) (nesting : Nesting) (textual : Textual nesting) (inStep : InStep nesting) :
      InStep (modules.foldl (registerModule settings) nesting) := by
    induction modules generalizing nesting with
    | nil => exact inStep
    | cons module rest ih => exact ih _ (textual_register_all nesting _ textual) (keys _ nesting textual inStep)
  exact modules origin.modules origin.nesting textual inStep

end SchemaRecovery.Recovery
