import Mathlib.Data.List.Induction
import SchemaRecovery.Proofs.Run.Files

set_option autoImplicit false

namespace SchemaRecovery.FileSystem

def Inward (part : String) : Prop := part ≠ "" ∧ part ≠ "." ∧ part ≠ ".."

def Unfiled (files : FileSystem) (place : Location) : Prop :=
  ∀ outer, outer <+: place → ∀ bytes, files.entry? outer ≠ some (.file bytes)

def Reached (files : FileSystem) (place : Location) : Prop :=
  ∀ outer, outer <+: place → outer ≠ place → files.entry? outer = some .directory

structure Opened (place : Location) (before after : FileSystem) : Prop where
  working : after.working = before.working
  entries : ∀ other, after.entry? other = if other <+: place then some .directory else before.entry? other

def Target.ofEntry (place : Location) : Option Entry → Target
  | some entry => .found place entry
  | none => .vacant place

theorem reached_snoc_iff (files : FileSystem) (place : Location) (part : String) :
    Reached files (place ++ [part]) ↔ files.entry? place = some .directory ∧ Reached files place := by
  constructor
  · intro reached
    refine ⟨reached place (List.prefix_append _ _) (by simp), fun outer before other => ?_⟩
    refine reached outer (before.trans (List.prefix_append _ _)) ?_
    rintro rfl
    have longer := before.length_le
    rw [List.length_append, List.length_singleton] at longer
    omega
  · rintro ⟨directory, reached⟩ outer before other
    rcases List.prefix_concat_iff.mp before with same | inner
    · exact absurd same other
    · by_cases same : outer = place
      · exact same ▸ directory
      · exact reached outer inner same

section Follow
variable (files : FileSystem)

theorem follow_reached (here : Location) (parts : List String) (inward : ∀ part ∈ parts, Inward part)
    (standing : files.entry? here = some .directory) (reached : Reached files (here ++ parts)) :
    files.follow here parts = .ofEntry (here ++ parts) ( files.entry? (here ++ parts)) := by
  induction parts generalizing here with
  | nil =>
      rw [List.append_nil, standing]
      rfl
  | cons part rest ih =>
      obtain ⟨named, stays, leaves⟩ := inward part List.mem_cons_self
      have inner : here ++ part :: rest = here ++ [part] ++ rest := by simp
      rw [inner] at reached ⊢
      simp only [follow, named, stays, leaves, or_self, if_false]
      by_cases last : rest = []
      · subst last
        rw [List.append_nil]
        cases files.entry? (here ++ [part]) with
        | none => rfl
        | some entry => cases entry <;> rfl
      · have next := reached (here ++ [part]) (List.prefix_append _ _) (by simpa using last)
        rw [next]
        exact ih (here ++ [part]) (fun other member => inward other (List.mem_cons_of_mem _ member)) next reached

theorem reached_of_follow (here : Location) (parts : List String) (inward : ∀ part ∈ parts, Inward part)
    (standing : files.entry? here = some .directory) (around : Reached files here) (location : Location)
    (followed : (files.follow here parts).location? = some location) : Reached files (here ++ parts) := by
  induction parts generalizing here with
  | nil => rwa [List.append_nil]
  | cons part rest ih =>
      obtain ⟨named, stays, leaves⟩ := inward part List.mem_cons_self
      have inner : here ++ part :: rest = here ++ [part] ++ rest := by simp
      have reached := (reached_snoc_iff files here part).mpr ⟨standing, around⟩
      rw [inner]
      by_cases last : rest = []
      · rwa [last, List.append_nil]
      · simp only [follow, named, stays, leaves, or_self, if_false, if_neg last] at followed
        split at followed
        · rename_i next
          exact ih (here ++ [part]) (fun other member => inward other (List.mem_cons_of_mem _ member)) next reached
            followed
        · cases followed
        · cases followed

variable (place : Location) (inward : ∀ part ∈ place, Inward part)
include inward

theorem target_reached (reached : Reached files place) :
    files.target ⟨true, "" :: place⟩ = .ofEntry place ( files.entry? place) := by
  have root : files.entry? [] = some .directory := rfl
  exact files.follow_reached [] place inward root reached

theorem reached_of_target (location : Location) (found : (files.target ⟨true, "" :: place⟩).location? = some location) :
    Reached files place := by
  have nothing : Reached files [] := fun outer before other => absurd (List.prefix_nil.mp before) other
  exact files.reached_of_follow [] place inward rfl nothing location found

end Follow

def provide (files : FileSystem) (path : Path) : Except PathFault FileSystem :=
  if files.isDirectory path then .ok files else files.makeDirectory path

section Provide
variable (files : FileSystem) (place : Location) (inward : ∀ part ∈ place, Inward part)
include inward

theorem provide_opened (reached : Reached files place) (unfiled : ∀ bytes, files.entry? place ≠ some (.file bytes)) :
    ∃ changed, files.provide ⟨true, "" :: place⟩ = .ok changed ∧ Opened place files changed := by
  have target := files.target_reached place inward reached
  cases entry : files.entry? place with
  | none =>
      rw [entry] at target
      have inner : place ≠ [] := files.inner_of_entry place (by simp [entry])
      refine ⟨files.put place .directory, by simp [provide, isDirectory, makeDirectory, target, Target.ofEntry], rfl, ?_⟩
      intro other
      rw [entry_of_put _ _ _ _ inner]
      by_cases same : other = place
      · simp [same]
      · rw [if_neg same]
        split
        · rename_i before
          exact reached other before same
        · rfl
  | some entry' =>
      cases entry' with
      | file bytes => exact absurd entry (unfiled bytes)
      | directory =>
          rw [entry] at target
          refine ⟨files, by simp [provide, isDirectory, target, Target.ofEntry], rfl, fun other => ?_⟩
          split
          · rename_i before
            by_cases same : other = place
            · exact same ▸ entry
            · exact reached other before same
          · rfl

theorem provide_fails (blocked : ¬ Reached files place ∨ ∃ bytes, files.entry? place = some (.file bytes)) :
    ∃ fault, files.provide ⟨true, "" :: place⟩ = .error fault := by
  by_cases reached : Reached files place
  · obtain ⟨bytes, entry⟩ := blocked.resolve_left (not_not_intro reached)
    have target := files.target_reached place inward reached
    rw [entry] at target
    exact ⟨.exists, by simp [provide, isDirectory, makeDirectory, target, Target.ofEntry]⟩
  · cases target : files.target ⟨true, "" :: place⟩ with
    | found location entry => exact absurd (files.reached_of_target place inward location (by rw [target]; rfl)) reached
    | vacant location => exact absurd (files.reached_of_target place inward location (by rw [target]; rfl)) reached
    | unreachable fault => exact ⟨fault, by simp [provide, isDirectory, makeDirectory, target]⟩

end Provide

theorem opened_snoc (first second third : FileSystem) (place : Location) (part : String) (left : Opened place first second)
    (right : Opened (place ++ [part]) second third) : Opened (place ++ [part]) first third := by
  refine ⟨right.working.trans left.working, fun other => ?_⟩
  rw [right.entries, left.entries]
  by_cases before : other <+: place ++ [part]
  · rw [if_pos before, if_pos before]
  · have outside : ¬ other <+: place := fun inner => before (inner.trans (List.prefix_append _ _))
    rw [if_neg before, if_neg before, if_neg outside]

theorem unfiled_snoc_iff (files : FileSystem) (place : Location) (part : String) : Unfiled files (place ++ [part]) ↔
    Unfiled files place ∧ ∀ bytes, files.entry? (place ++ [part]) ≠ some (.file bytes) := by
  simp only [Unfiled, List.prefix_concat_iff]
  constructor
  · exact fun unfiled => ⟨fun outer inner => unfiled outer (.inr inner), unfiled _ (.inl rfl)⟩
  · rintro ⟨around, last⟩ outer (rfl | inner)
    · exact last
    · exact around outer inner

theorem opened_below (before after : FileSystem) (place : Location) (part : String) (opened : Opened place before after) :
    Reached after (place ++ [part]) ∧ after.entry? (place ++ [part]) = before.entry? (place ++ [part]) := by
  constructor
  · intro outer inner other
    rw [opened.entries, if_pos ((List.prefix_concat_iff.mp inner).resolve_left other)]
  · have below : ¬ place ++ [part] <+: place := by
      intro inner
      have longer := inner.length_le
      rw [List.length_append, List.length_singleton] at longer
      omega
    rw [opened.entries, if_neg below]

theorem make_reversed_step (files : FileSystem) (place : Location) (part : String) (inward : ∀ other ∈ place, Inward other)
    (next : Inward part) :
    files.makeReversed true ((place ++ [part]).reverse ++ [""]) =
      (if place = [] ∨ files.has ⟨true, "" :: place⟩ then .ok files else files.makeReversed true (place.reverse ++ [""]))
        >>= fun prepared => prepared.provide ⟨true, "" :: (place ++ [part])⟩ := by
  have start : Path.isStart ⟨true, "" :: place⟩ = decide (place = []) := by
    cases place with
    | nil => rfl
    | cons first rest => simp [Path.isStart, (inward first List.mem_cons_self).1]
  have around : (place.reverse ++ [""]).reverse = "" :: place := by simp
  rw [List.reverse_append, List.reverse_singleton, List.singleton_append, List.cons_append, makeReversed]
  simp only [around, start, List.reverse_cons, next.2.1, and_false, if_false, Bool.or_eq_true, decide_eq_true_eq]
  split <;> rfl

section Make
variable (files : FileSystem)

theorem standing_of_ready (place : Location) (inward : ∀ part ∈ place, Inward part)
    (ready : place = [] ∨ files.has ⟨true, "" :: place⟩) :
    Reached files place ∧ ∃ entry, files.entry? place = some entry := by
  rcases ready with rfl | there
  · exact ⟨fun outer before other => absurd (List.prefix_nil.mp before) other, .directory, rfl⟩
  · cases target : files.target ⟨true, "" :: place⟩ with
    | found location entry =>
        have reached := files.reached_of_target place inward location (by rw [target]; rfl)
        rw [files.target_reached place inward reached] at target
        refine ⟨reached, ?_⟩
        cases known : files.entry? place with
        | none =>
            rw [known] at target
            cases target
        | some entry => exact ⟨entry, rfl⟩
    | vacant location => simp [has, target] at there
    | unreachable fault => simp [has, target] at there

theorem unfiled_of_reached (place : Location) (reached : Reached files place)
    (last : ∀ bytes, files.entry? place ≠ some (.file bytes)) : Unfiled files place := by
  intro outer before bytes
  by_cases same : outer = place
  · exact same ▸ last bytes
  · rw [reached outer before same]
    simp

theorem make_reversed_opened (place : Location) (inward : ∀ part ∈ place, Inward part) (unfiled : Unfiled files place) :
    ∃ changed, files.makeReversed true (place.reverse ++ [""]) = .ok changed ∧ Opened place files changed := by
  -- The directories around a place are made before it, so the last part of the path is taken off.
  induction place using List.reverseRecOn with
  | nil =>
      refine ⟨files, rfl, rfl, fun other => ?_⟩
      split
      · rename_i root
        rw [List.prefix_nil.mp root]
        rfl
      · rfl
  | append_singleton place part ih =>
      have before : ∀ other ∈ place, Inward other := fun other member => inward other (List.mem_append_left _ member)
      have next : Inward part := inward part (by simp)
      obtain ⟨around, last⟩ := (unfiled_snoc_iff files place part).mp unfiled
      rw [make_reversed_step files place part before next]
      by_cases ready : place = [] ∨ files.has ⟨true, "" :: place⟩
      · rw [if_pos ready]
        obtain ⟨reached, entry, known⟩ := standing_of_ready files place before ready
        have directory : files.entry? place = some .directory := by
          cases entry with
          | directory => exact known
          | file bytes => exact absurd known (around place (List.prefix_refl _) bytes)
        exact provide_opened files _ inward ((reached_snoc_iff files place part).mpr ⟨directory, reached⟩) last
      · obtain ⟨prepared, made, opened⟩ := ih before around
        obtain ⟨reached, same⟩ := opened_below files prepared place part opened
        obtain ⟨changed, provided, further⟩ := provide_opened prepared _ inward reached (same ▸ last)
        rw [if_neg ready, made]
        exact ⟨changed, provided, opened_snoc _ _ _ _ _ opened further⟩

theorem make_reversed_fails (place : Location) (inward : ∀ part ∈ place, Inward part) (filed : ¬ Unfiled files place) :
    ∃ fault, files.makeReversed true (place.reverse ++ [""]) = .error fault := by
  induction place using List.reverseRecOn with
  | nil =>
      refine absurd (fun outer before bytes entry => ?_) filed
      rw [List.prefix_nil.mp before] at entry
      cases entry
  | append_singleton place part ih =>
      have before : ∀ other ∈ place, Inward other := fun other member => inward other (List.mem_append_left _ member)
      have next : Inward part := inward part (by simp)
      rw [make_reversed_step files place part before next]
      by_cases ready : place = [] ∨ files.has ⟨true, "" :: place⟩
      · have blocked : ¬ Reached files (place ++ [part]) ∨ ∃ bytes, files.entry? (place ++ [part]) = some (.file bytes) := by
          by_contra free
          push Not at free
          exact filed (unfiled_of_reached files _ free.1 free.2)
        rw [if_pos ready]
        exact provide_fails files _ inward blocked
      · rw [if_neg ready]
        by_cases around : Unfiled files place
        · obtain ⟨prepared, made, opened⟩ := make_reversed_opened files place before around
          have last : ∃ bytes, files.entry? (place ++ [part]) = some (.file bytes) := by
            by_contra free
            push Not at free
            exact filed ((unfiled_snoc_iff files place part).mpr ⟨around, free⟩)
          rw [← (opened_below files prepared place part opened).2] at last
          rw [made]
          exact provide_fails prepared _ inward (.inr last)
        · obtain ⟨fault, failed⟩ := ih before around
          exact ⟨fault, by rw [failed]; rfl⟩

theorem make_directories_around (place : Location) (part : String) (inward : ∀ other ∈ place, Inward other) :
    files.makeDirectories (Path.directory ⟨true, "" :: (place ++ [part])⟩) =
      files.makeReversed true (place.reverse ++ [""]) := by
  have outer : ("" :: (place ++ [part])).dropLast = "" :: place := by
    rw [← List.cons_append, List.dropLast_concat]
  rcases List.eq_nil_or_concat place with rfl | ⟨before, last, rfl⟩
  · rfl
  · have named : last ≠ "" := (inward last (by simp)).1
    have directory : Path.directory ⟨true, "" :: (before.concat last ++ [part])⟩ = ⟨true, "" :: before.concat last⟩ := by
      rw [Path.directory, outer]
      simp [named]
    have away : Path.isStart ⟨true, "" :: before.concat last⟩ = false := by simp [Path.isStart, named]
    rw [directory, makeDirectories, away]
    simp

structure Free (place : Location) : Prop where
  inner : place ≠ []
  around : Unfiled files place.dropLast
  notDirectory : files.entry? place ≠ some .directory

theorem write_within_iff (place : Location) (inward : ∀ part ∈ place, Inward part) (bytes : List UInt8) :
    (∃ changed, files.writeWithin ⟨true, "" :: place⟩ bytes = .ok changed) ↔ Free files place := by
  rcases List.eq_nil_or_concat place with rfl | ⟨around, part, rfl⟩
  · refine iff_of_false ?_ fun free => free.inner rfl
    rintro ⟨changed, written⟩
    cases written
  · rw [List.concat_eq_append] at inward ⊢
    have before : ∀ other ∈ around, Inward other := fun other member => inward other (List.mem_append_left _ member)
    rw [writeWithin, make_directories_around files around part before]
    by_cases unfiled : Unfiled files around
    · obtain ⟨prepared, made, opened⟩ := make_reversed_opened files around before unfiled
      obtain ⟨reached, same⟩ := opened_below files prepared around part opened
      have target := prepared.target_reached _ inward reached
      rw [same] at target
      have free : Free files (around ++ [part]) ↔ files.entry? (around ++ [part]) ≠ some .directory := by
        refine ⟨Free.notDirectory, fun other => ⟨by simp, ?_, other⟩⟩
        rwa [List.dropLast_concat]
      rw [made, free]
      simp only [bind, Except.bind, write, target]
      cases files.entry? (around ++ [part]) with
      | none => simp [Target.ofEntry]
      | some entry => cases entry <;> simp [Target.ofEntry]
    · obtain ⟨fault, failed⟩ := make_reversed_fails files around before unfiled
      rw [failed]
      refine iff_of_false ?_ fun free => unfiled ?_
      · rintro ⟨changed, ⟨⟩⟩
      · have outer := free.around
        rwa [List.dropLast_concat] at outer

end Make

section Absolute
variable (files : FileSystem) (proper : ∀ part ∈ files.working, Inward part) (path : Path)
include proper

theorem locate_inward : ∀ part ∈ files.locate path, Inward part := by
  have steps (parts : List String) (here : Location) (inward : ∀ part ∈ here, Inward part) :
      ∀ part ∈ parts.foldl stepInto here, Inward part := by
    induction parts generalizing here with
    | nil => exact inward
    | cons first rest ih =>
        refine ih (stepInto here first) ?_
        unfold stepInto
        split
        · exact inward
        · rename_i moves
          split
          · exact fun part member => inward part (List.dropLast_subset _ member)
          · rename_i enters
            intro part member
            rcases List.mem_append.mp member with before | last
            · exact inward part before
            · rw [List.mem_singleton.mp last]
              exact ⟨fun same => moves (.inl same), fun same => moves (.inr same), enters⟩
  refine steps path.parts _ ?_
  unfold startOf
  split
  · exact fun part member => absurd member List.not_mem_nil
  · exact proper

theorem locate_absolute : files.locate (files.absolute path) = files.locate path := by
  have steps (parts : List String) (here : Location) (inward : ∀ part ∈ parts, Inward part) :
      parts.foldl stepInto here = here ++ parts := by
    induction parts generalizing here with
    | nil => simp
    | cons first rest ih =>
        obtain ⟨named, stays, leaves⟩ := inward first List.mem_cons_self
        rw [List.foldl_cons, ih _ fun part member => inward part (List.mem_cons_of_mem _ member)]
        simp [stepInto, named, stays, leaves]
  exact steps (files.locate path) [] (files.locate_inward proper path)

end Absolute

end SchemaRecovery.FileSystem
