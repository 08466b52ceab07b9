import SchemaRecovery.Proto.Token
import SchemaRecovery.Schema.Name

set_option autoImplicit false

namespace SchemaRecovery.Schema

open Name (separator splitSegments joinSegments segments nestingPath short shownInside)
open Proto (isNameStart isNamePart)

def isNameText : List Char → Bool
  | [] => false
  | c :: rest => isNameStart c && rest.all isNamePart

abbrev IsName (name : String) : Prop := isNameText name.toList

abbrev Segmented (name : String) : Prop := ∀ segment ∈ segments name, isNameText segment

theorem name_start_part (c : Char) (start : isNameStart c) : isNamePart c := by
  simp only [isNameStart, isNamePart, Char.isAlphanum, Bool.or_eq_true] at start ⊢
  exact start.imp .inl id

theorem name_text_parts (text : List Char) (named : isNameText text) : ∀ c ∈ text, isNamePart c := by
  cases text with
  | nil => cases named
  | cons first rest =>
      simp only [isNameText, Bool.and_eq_true, List.all_eq_true] at named
      intro c member
      rcases List.mem_cons.mp member with same | later
      · exact same ▸ name_start_part first named.1
      · exact named.2 c later

theorem not_in_name (text : List Char) (named : isNameText text) (c : Char) (other : isNamePart c = false) :
    c ∉ text := by
  intro member
  rw [name_text_parts text named c member] at other
  cases other

theorem split_separated (segment rest : List Char) (whole : separator ∉ segment) :
    splitSegments (segment ++ separator :: rest) = segment :: splitSegments rest := by
  induction segment with
  | nil => simp [splitSegments]
  | cons c segment ih =>
      rw [List.mem_cons, not_or] at whole
      rw [List.cons_append, splitSegments, if_neg (Ne.symm whole.1), ih whole.2]

theorem split_whole (segment : List Char) (whole : separator ∉ segment) : splitSegments segment = [segment] := by
  induction segment with
  | nil => rfl
  | cons c segment ih =>
      rw [List.mem_cons, not_or] at whole
      rw [splitSegments, if_neg (Ne.symm whole.1), ih whole.2]

theorem split_join (parts : List (List Char)) (some : parts ≠ []) (whole : ∀ part ∈ parts, separator ∉ part) :
    splitSegments (joinSegments parts) = parts := by
  induction parts with
  | nil => exact absurd rfl some
  | cons part rest ih =>
      have first := whole part List.mem_cons_self
      cases rest with
      | nil => exact split_whole part first
      | cons next rest =>
          rw [joinSegments, split_separated _ _ first, ih (List.cons_ne_nil _ _)]
          · exact fun other member => whole other (List.mem_cons_of_mem _ member)
          · exact List.cons_ne_nil _ _

theorem join_snoc (parts : List (List Char)) (some : parts ≠ []) (last : List Char) :
    joinSegments (parts ++ [last]) = joinSegments parts ++ separator :: last := by
  induction parts with
  | nil => exact absurd rfl some
  | cons part rest ih =>
      cases rest with
      | nil => rfl
      | cons next rest =>
          have further := ih (List.cons_ne_nil _ _)
          simp only [List.cons_append, joinSegments] at further ⊢
          rw [further, List.append_assoc]
          rfl

theorem segments_last (name : String) : segments name = (segments name).dropLast ++ [(short name).toList] := by
  have present : segments name ≠ [] := Name.split_segments_nonempty name.toList
  rw [short, String.toList_ofList, List.getLastD_eq_getLast?, List.getLast?_eq_some_getLast present]
  exact (List.dropLast_concat_getLast present).symm

theorem short_name (name : String) (named : Segmented name) : IsName (short name) :=
  named _ (segments_last name ▸ List.mem_append_right _ (List.mem_singleton_self _))

theorem nesting_path_segments (name : String) (named : Segmented name) (nested : nestingPath name ≠ "") :
    segments (nestingPath name) = (segments name).dropLast := by
  rw [segments, nestingPath, String.toList_ofList]
  refine split_join _ ?_ fun part member => ?_
  · intro empty
    exact nested (by rw [nestingPath, empty]; rfl)
  · exact not_in_name part (named part ((List.dropLast_sublist _).mem member)) _ (by decide)

theorem segmented_nesting_path (name : String) (named : Segmented name) (nested : nestingPath name ≠ "") :
    Segmented (nestingPath name) := by
  unfold Segmented
  rw [nesting_path_segments name named nested]
  exact fun segment member => named segment ((List.dropLast_sublist _).mem member)

theorem join_chars (parts : List (List Char)) (c : Char) (member : c ∈ joinSegments parts) :
    c = separator ∨ ∃ part ∈ parts, c ∈ part := by
  induction parts with
  | nil => exact absurd member List.not_mem_nil
  | cons part rest ih =>
      cases rest with
      | nil => exact .inr ⟨part, List.mem_cons_self, member⟩
      | cons next rest =>
          rw [joinSegments, List.mem_append, List.mem_cons] at member
          · rcases member with inside | same | later
            · exact .inr ⟨part, List.mem_cons_self, inside⟩
            · exact .inl same
            · refine (ih later).imp id fun found => ?_
              obtain ⟨other, present, inside⟩ := found
              exact ⟨other, List.mem_cons_of_mem _ present, inside⟩
          · exact List.cons_ne_nil _ _

theorem join_line (parts : List (List Char)) (named : ∀ part ∈ parts, isNameText part) : '\n' ∉ joinSegments parts := by
  intro member
  rcases join_chars parts '\n' member with mark | ⟨part, present, inside⟩
  · exact absurd mark (by decide)
  · exact not_in_name part (named part present) '\n' (by decide) inside

theorem segmented_line (name : String) (named : Segmented name) : '\n' ∉ name.toList := by
  have whole : joinSegments (segments name) = name.toList := Name.join_split _
  exact whole ▸ join_line _ named

theorem shown_inside_path (name parent : String) (opened : name.toList.head? ≠ some separator)
    (path : parent = "" ∨ parent = nestingPath name) : shownInside name parent = short name := by
  by_cases top : parent = ""
  · unfold shownInside
    rw [if_neg]
    intro marked
    obtain ⟨rest, split⟩ := List.isPrefixOf_iff_prefix.mp marked
    exact opened (by rw [← split, top]; rfl)
  · have same := path.resolve_left top
    have whole : joinSegments (segments name) = name.toList := Name.join_split _
    have init : (segments name).dropLast ≠ [] := by
      intro empty
      exact top (by rw [same, nestingPath, empty]; rfl)
    rw [segments_last name, join_snoc _ init] at whole
    have opening : parent.toList ++ [separator] ++ (short name).toList = name.toList := by
      rw [← whole, same, nestingPath, String.toList_ofList, List.append_assoc]
      rfl
    unfold shownInside
    rw [← opening, if_pos (List.isPrefixOf_iff_prefix.mpr (List.prefix_append _ _)), List.drop_left, String.ofList_toList]

theorem segmented_opened (name : String) (named : Segmented name) : name.toList.head? ≠ some separator := by
  intro marked
  obtain ⟨rest, split⟩ := List.head?_eq_some_iff.mp marked
  have first : [] ∈ segments name := by simp [segments, split, splitSegments]
  exact absurd (named [] first) (by decide)

theorem shown_inside (name parent : String) (named : Segmented name) (path : parent = "" ∨ parent = nestingPath name) :
    shownInside name parent = short name :=
  shown_inside_path name parent (segmented_opened name named) path

end SchemaRecovery.Schema
