import Mathlib.Data.List.Basic
import SchemaRecovery.Settings

set_option autoImplicit false

namespace SchemaRecovery.SourcePatch

def OpenAt (name addition text : List Char) (place : Nat) : Prop :=
  name <+: text.drop place ∧ ¬ addition <+: text.drop (place + name.length)

instance (name addition text : List Char) (place : Nat) : Decidable (OpenAt name addition text place) :=
  inferInstanceAs (Decidable (_ ∧ _))

def Complete (name addition text : List Char) : Prop :=
  ∀ place, name <+: text.drop place → addition <+: text.drop (place + name.length)

def openPlaces (name addition text : List Char) : List Nat :=
  (List.range text.length).filter fun place => OpenAt name addition text place

def paste (name addition : List Char) (places : List Nat) (text : List Char) : List Char :=
  -- The text with the addition put behind the names at some places. The last of them comes
  -- first, so that it moves none of the others.
  places.foldr (fun place text => text.take (place + name.length) ++ addition ++ text.drop (place + name.length)) text

def cut (name addition : List Char) (places : List Nat) (text : List Char) : List Char :=
  places.foldr (fun place text =>
    text.take (place + name.length) ++ text.drop (place + name.length + addition.length)) text

def moved (addition : List Char) : List Nat → List Nat
  | [] => []
  | place :: places => place :: (moved addition places).map (· + addition.length)

structure Amended (name addition text result : List Char) : Prop where
  -- What a patch makes of a text. Each place that was open now has the addition, nothing else is
  -- different, and so the text comes back when the additions are taken out again.
  complete : Complete name addition result
  unchanged : Complete name addition text → result = text
  pasted : result = paste name addition (openPlaces name addition text) text
  standing : ∀ place ∈ moved addition (openPlaces name addition text), name ++ addition <+: result.drop place
  undone : cut name addition (moved addition (openPlaces name addition text)) result = text
  length : result.length = text.length + addition.length * (openPlaces name addition text).length

theorem complete_iff (name addition text : List Char) (named : name ≠ []) :
    Complete name addition text ↔ openPlaces name addition text = [] := by
  simp only [openPlaces, List.filter_eq_nil_iff, List.mem_range, decide_eq_true_eq]
  simp only [Complete, OpenAt, not_and_not_right]
  refine ⟨fun follows place _ => follows place, fun follows place stands => follows place ?_ stands⟩
  have longer := stands.length_le
  have positive := List.length_pos_iff.mpr named
  rw [List.length_drop] at longer
  omega

inductive Patched (name addition : List Char) : List Char → List Char → Prop where
  | done : Patched name addition [] []
  | kept (c : Char) (text result : List Char) (closed : ¬ OpenAt name addition (c :: text) 0)
      (later : Patched name addition text result) : Patched name addition (c :: text) (c :: result)
  | added (text result : List Char) (missing : ¬ addition <+: text) (later : Patched name addition text result) :
      Patched name addition (name ++ text) (name ++ addition ++ result)

theorem open_start (name addition text : List Char) :
    OpenAt name addition text 0 ↔ ∃ after, text = name ++ after ∧ ¬ addition <+: after := by
  simp only [OpenAt, List.drop_zero, Nat.zero_add]
  constructor
  · rintro ⟨⟨after, rfl⟩, missing⟩
    exact ⟨after, rfl, by rwa [List.drop_left] at missing⟩
  · rintro ⟨after, rfl, missing⟩
    exact ⟨List.prefix_append _ _, by rwa [List.drop_left]⟩

theorem starts_at_iff (name addition text : List Char) :
    Needle.startsAt ⟨name, some addition⟩ text = true ↔ OpenAt name addition text 0 := by
  simp only [Needle.startsAt, OpenAt, Option.any_some, Bool.and_eq_true, Bool.not_eq_true', List.isPrefixOf_iff_prefix,
    ← Bool.not_eq_true, List.drop_zero, Nat.zero_add]

theorem substitute_start (needle : Needle) (replacement text after : List Char) (named : needle.text ≠ [])
    (same : text = needle.text ++ after) (starts : needle.startsAt text = true) :
    substitute needle replacement text = replacement ++ substitute needle replacement after := by
  obtain ⟨first, rest, name⟩ := List.exists_cons_of_ne_nil named
  subst same
  rw [name, List.cons_append] at starts ⊢
  rw [substitute.eq_def]
  simp [starts, name]

theorem substitute_other (needle : Needle) (replacement : List Char) (c : Char) (text : List Char)
    (other : ¬ needle.startsAt (c :: text) = true) :
    substitute needle replacement (c :: text) = c :: substitute needle replacement text := by
  rw [substitute.eq_def]
  simp [other]

theorem substitute_nil (needle : Needle) (replacement : List Char) (other : ¬ needle.startsAt [] = true) :
    substitute needle replacement [] = [] := by
  rw [substitute.eq_def]
  simp [other]

theorem substitute_patched (name addition text : List Char) (named : name ≠ []) :
    Patched name addition text (substitute ⟨name, some addition⟩ (name ++ addition) text) := by
  -- A match takes several characters at once.
  induction length : text.length using Nat.strongRecOn generalizing text with
  | _ size ih =>
      by_cases opens : OpenAt name addition text 0
      · obtain ⟨after, same, missing⟩ := (open_start name addition text).mp opens
        rw [substitute_start _ _ text after named same ((starts_at_iff _ _ _).mpr opens), same]
        refine .added after _ missing (ih _ ?_ after rfl)
        have positive := List.length_pos_iff.mpr named
        rw [← length, same, List.length_append]
        omega
      · have other := mt (starts_at_iff name addition text).mp opens
        cases text with
        | nil =>
            rw [substitute_nil _ _ other]
            exact .done
        | cons c later =>
            rw [substitute_other _ _ c later other]
            exact .kept c later _ opens (ih _ (length ▸ Nat.lt_succ_self _) later rfl)

theorem paste_behind (name addition part : List Char) (places : List Nat) (text : List Char) :
    paste name addition (places.map (· + part.length)) (part ++ text) = part ++ paste name addition places text := by
  induction places with
  | nil => rfl
  | cons place rest ih =>
      have behind : place + part.length + name.length = part.length + (place + name.length) := by omega
      simp only [paste, List.map_cons, List.foldr_cons] at ih ⊢
      rw [ih, behind, List.take_length_add_append, List.drop_length_add_append]
      simp only [List.append_assoc]

theorem cut_behind (name addition part : List Char) (places : List Nat) (text : List Char) :
    cut name addition (places.map (· + part.length)) (part ++ text) = part ++ cut name addition places text := by
  induction places with
  | nil => rfl
  | cons place rest ih =>
      have behind : place + part.length + name.length = part.length + (place + name.length) := by omega
      simp only [cut, List.map_cons, List.foldr_cons] at ih ⊢
      rw [ih, behind, List.take_length_add_append, Nat.add_assoc, List.drop_length_add_append]
      simp only [List.append_assoc]

theorem moved_behind (addition : List Char) (places : List Nat) (n : Nat) :
    moved addition (places.map (· + n)) = (moved addition places).map (· + n) := by
  induction places with
  | nil => rfl
  | cons place rest ih =>
      simp only [List.map_cons, moved, ih, List.map_map, Function.comp_def, Nat.add_right_comm]

theorem moved_added (name addition : List Char) (places : List Nat) :
    moved addition (0 :: places.map (· + name.length)) =
      0 :: (moved addition places).map (· + (name ++ addition).length) := by
  simp only [moved, moved_behind, List.map_map, Function.comp_def, List.length_append, Nat.add_assoc]

theorem paste_length (name addition : List Char) (places : List Nat) (text : List Char) :
    (paste name addition places text).length = text.length + addition.length * places.length := by
  induction places with
  | nil => rfl
  | cons place rest ih =>
      have parts := congrArg List.length (List.take_append_drop (place + name.length) (paste name addition rest text))
      simp only [paste, List.foldr_cons, List.length_append, List.length_cons, Nat.mul_add, Nat.mul_one] at ih parts ⊢
      omega

theorem open_places_cons (name addition : List Char) (c : Char) (text : List Char) :
    openPlaces name addition (c :: text) =
      (if OpenAt name addition (c :: text) 0 then [0] else []) ++ (openPlaces name addition text).map (· + 1) := by
  have later (place : Nat) : OpenAt name addition (c :: text) (place + 1) ↔ OpenAt name addition text place := by
    rw [OpenAt, OpenAt, List.drop_succ_cons, Nat.add_right_comm, List.drop_succ_cons]
  rw [openPlaces, List.length_cons, List.range_succ_eq_map, List.filter_cons, List.filter_map]
  simp only [Function.comp_def, later, decide_eq_true_eq, openPlaces]
  split <;> rfl

section
variable (first : Char) (rest addition : List Char)

theorem open_places_behind (part text : List Char) (other : first ∉ part) :
    openPlaces (first :: rest) addition (part ++ text) =
      (openPlaces (first :: rest) addition text).map (· + part.length) := by
  induction part with
  | nil => simp
  | cons c later ih =>
      rw [List.mem_cons, not_or] at other
      have closed : ¬ OpenAt (first :: rest) addition (c :: (later ++ text)) 0 := by
        intro opens
        obtain ⟨after, same, _⟩ := (open_start _ _ _).mp opens
        exact other.1 (List.cons.inj same).1.symm
      rw [List.cons_append, open_places_cons, if_neg closed, ih other.2, List.nil_append, List.map_map]
      rfl

theorem beginning_kept (text result : List Char) (patched : Patched (first :: rest) addition text result)
    (part : List Char) (other : first ∉ part) : part <+: result ↔ part <+: text := by
  -- Without the first letter of the name, what a text begins with stays what it begins with.
  induction patched generalizing part with
  | done => exact Iff.rfl
  | kept c text result _ _ ih =>
      cases part with
      | nil => simp
      | cons d later =>
          rw [List.cons_prefix_cons, List.cons_prefix_cons, ih later fun member => other (List.mem_cons_of_mem _ member)]
  | added text result _ _ _ =>
      cases part with
      | nil => simp
      | cons d later =>
          have different : d ≠ first := fun same => other (same ▸ List.mem_cons_self)
          simp [List.cons_prefix_cons, different]

variable (once : first ∉ rest)
include once

theorem open_places_named (text : List Char) :
    openPlaces (first :: rest) addition (first :: rest ++ text) =
      (if addition <+: text then [] else [0]) ++
        (openPlaces (first :: rest) addition text).map (· + (first :: rest).length) := by
  have start : OpenAt (first :: rest) addition (first :: (rest ++ text)) 0 ↔ ¬ addition <+: text := by
    rw [open_start]
    constructor
    · rintro ⟨after, same, missing⟩
      rwa [List.append_cancel_left (List.cons.inj same).2]
    · exact fun missing => ⟨text, rfl, missing⟩
  rw [List.cons_append, open_places_cons, open_places_behind first rest addition rest text once, List.map_map]
  simp only [start, ite_not]
  rfl

section Run
variable (text result : List Char) (patched : Patched (first :: rest) addition text result)
include patched

theorem kept_closed (c : Char) (apart : first ∉ addition) (closed : ¬ OpenAt (first :: rest) addition (c :: text) 0) :
    ¬ OpenAt (first :: rest) addition (c :: result) 0 := by
  rw [open_start] at closed ⊢
  rintro ⟨after, same, missing⟩
  obtain ⟨rfl, behind⟩ := List.cons.inj same
  replace behind : rest ++ after = result := behind.symm
  have kept := beginning_kept c rest addition text result patched
  obtain ⟨before, rfl⟩ := (kept rest once).mp ⟨after, behind⟩
  refine closed ⟨before, rfl, fun follows => missing ?_⟩
  have whole := (kept (rest ++ addition) (by simp [once, apart])).mpr ((List.prefix_append_right_inj rest).mpr follows)
  rw [← behind] at whole
  exact (List.prefix_append_right_inj rest).mp whole

theorem patched_closed (apart : first ∉ addition) : openPlaces (first :: rest) addition result = [] := by
  induction patched with
  | done => rfl
  | kept c text result closed later ih =>
      rw [open_places_cons, if_neg (kept_closed first rest addition once text result later c apart closed), ih]
      rfl
  | added text result _ later ih =>
      rw [List.append_assoc, open_places_named first rest addition once, if_pos (List.prefix_append _ _),
        open_places_behind first rest addition addition result apart, ih]
      rfl

theorem patched_pasted : result = paste (first :: rest) addition (openPlaces (first :: rest) addition text) text := by
  induction patched with
  | done => rfl
  | kept c text result closed _ ih =>
      rw [open_places_cons, if_neg closed, List.nil_append]
      exact (congrArg (c :: ·) ih).trans (paste_behind _ addition [c] _ text).symm
  | added text result missing _ ih =>
      rw [open_places_named first rest addition once, if_neg missing, List.singleton_append]
      have behind := paste_behind (first :: rest) addition (first :: rest) (openPlaces (first :: rest) addition text) text
      rw [← ih] at behind
      rw [paste, List.foldr_cons, ← paste, behind, Nat.zero_add, List.take_left, List.drop_left]

theorem patched_cut :
    cut (first :: rest) addition (moved addition (openPlaces (first :: rest) addition text)) result = text := by
  induction patched with
  | done => rfl
  | kept c text result closed _ ih =>
      rw [open_places_cons, if_neg closed, List.nil_append, moved_behind]
      exact (cut_behind _ addition [c] _ result).trans (congrArg (c :: ·) ih)
  | added text result missing _ ih =>
      rw [open_places_named first rest addition once, if_neg missing, List.singleton_append, moved_added]
      have behind := cut_behind (first :: rest) addition (first :: rest ++ addition)
        (moved addition (openPlaces (first :: rest) addition text)) result
      rw [ih] at behind
      rw [cut, List.foldr_cons, ← cut, behind, Nat.zero_add, List.append_assoc, List.take_left, ← List.append_assoc,
        ← List.length_append, List.drop_left]

theorem patched_standing (place : Nat) (member : place ∈ moved addition (openPlaces (first :: rest) addition text)) :
    (first :: rest) ++ addition <+: result.drop place := by
  induction patched generalizing place with
  | done => cases member
  | kept c text result closed _ ih =>
      rw [open_places_cons, if_neg closed, List.nil_append, moved_behind] at member
      obtain ⟨earlier, listed, rfl⟩ := List.mem_map.mp member
      exact ih earlier listed
  | added text result missing _ ih =>
      rw [open_places_named first rest addition once, if_neg missing, List.singleton_append, moved_added,
        List.mem_cons] at member
      rcases member with rfl | member
      · exact List.prefix_append _ _
      · obtain ⟨earlier, listed, rfl⟩ := List.mem_map.mp member
        rw [Nat.add_comm, List.drop_length_add_append]
        exact ih earlier listed

end Run

end

theorem substitute_amended (first : Char) (rest addition text : List Char) (once : first ∉ rest)
    (apart : first ∉ addition) :
    Amended (first :: rest) addition text
      (substitute ⟨first :: rest, some addition⟩ (first :: rest ++ addition) text) := by
  have named : first :: rest ≠ [] := List.cons_ne_nil _ _
  have patched := substitute_patched (first :: rest) addition text named
  have pasted := patched_pasted first rest addition once text _ patched
  refine ⟨?_, fun whole => ?_, pasted, patched_standing first rest addition once text _ patched,
    patched_cut first rest addition once text _ patched, ?_⟩
  · exact (complete_iff _ _ _ named).mpr (patched_closed first rest addition once text _ patched apart)
  · rw [pasted, (complete_iff _ _ _ named).mp whole]
    rfl
  · rw [← paste_length, ← pasted]

theorem read_plain (text : List Char) (plain : '\\' ∉ text) : readReplacement text = .ok (text.map .char) := by
  induction text with
  | nil => rw [readReplacement]; rfl
  | cons c rest ih =>
      rw [List.mem_cons, not_or] at plain
      unfold readReplacement
      split
      · rename_i empty
        cases empty
      · rename_i same
        exact absurd (List.cons.inj same).1.symm plain.1
      · rename_i same
        cases same
        rw [ih plain.2]
        rfl

def trigger : List Char := "LimitSharing$Trigger".toList

def triggerEnd : List Char := "Type".toList

theorem default_patches (source : String) : Settings.applyPatches {} source =
    .ok (String.ofList (substitute ⟨trigger, some triggerEnd⟩ (trigger ++ triggerEnd) source.toList)) := by
  have needle : readNeedle limitSharing.pattern.toList = ⟨trigger, some triggerEnd⟩ := by decide
  have replacement : limitSharing.replacement.toList = trigger ++ triggerEnd := by decide
  have whole (text found : List Char) : (text.map Part.char).flatMap (Part.chars found) = text := by
    simp [List.flatMap_map, Part.chars]
  have applied : limitSharing.apply source =
      .ok (String.ofList (substitute ⟨trigger, some triggerEnd⟩ (trigger ++ triggerEnd) source.toList)) := by
    rw [apply, needle, replacement, read_plain _ (by decide)]
    dsimp only [bind, Except.bind]
    rw [whole]
  simp only [Settings.applyPatches, List.foldlM_cons, List.foldlM_nil, applied]
  rfl

/-- The usual patch of a bundle never fails, whatever the bundle holds, and a bundle that has been
patched stays as it is. -/
theorem usual_patch_amends (source : String) : ∃ patched, Settings.applyPatches {} source = .ok patched ∧
    Amended trigger triggerEnd source.toList patched.toList ∧ Settings.applyPatches {} patched = .ok patched ∧
    patched.length = source.length + 4 * (openPlaces trigger triggerEnd source.toList).length := by
  have amended (text : List Char) :
      Amended trigger triggerEnd text (substitute ⟨trigger, some triggerEnd⟩ (trigger ++ triggerEnd) text) :=
    substitute_amended 'L' _ triggerEnd text (by decide) (by decide)
  refine ⟨_, default_patches source, ?_, ?_, ?_⟩
  · rw [String.toList_ofList]
    exact amended source.toList
  · rw [default_patches, String.toList_ofList, (amended _).unchanged (amended source.toList).complete]
  · rw [String.length_ofList, (amended source.toList).length, String.length_toList]
    rfl

end SchemaRecovery.SourcePatch
