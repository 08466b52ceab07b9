import SchemaRecovery.Proofs.Text.Lines
import SchemaRecovery.Script.Excerpt
import SchemaRecovery.Script.Parse.Program

set_option autoImplicit false

namespace SchemaRecovery.Text

theorem trim_where_parts (p : Char → Bool) (text : List Char) : ∃ left right,
    text = left ++ trimWhere p text ++ right ∧ (∀ c ∈ left ++ right, p c = true) ∧
      (∀ c ∈ (trimWhere p text).head?, p c = false) ∧ ∀ c ∈ (trimWhere p text).getLast?, p c = false := by
  have stops (rest : List Char) : ∀ c ∈ (rest.dropWhile p).head?, p c = false := by
    intro c first
    have stop := List.head?_dropWhile_not p rest
    rw [Option.mem_def] at first
    simpa [first] using stop
  have back : text.dropWhile p = trimWhere p text ++ ((text.dropWhile p).reverse.takeWhile p).reverse := by
    rw [trimWhere, ← List.reverse_append, List.takeWhile_append_dropWhile, List.reverse_reverse]
  refine ⟨text.takeWhile p, ((text.dropWhile p).reverse.takeWhile p).reverse, ?_, ?_, ?_, ?_⟩
  · rw [List.append_assoc, ← back, List.takeWhile_append_dropWhile]
  · intro c member
    rw [List.mem_append, List.mem_reverse] at member
    exact member.elim List.mem_takeWhile_imp List.mem_takeWhile_imp
  · intro c first
    refine stops text c ?_
    rw [back, List.head?_append]
    rw [Option.mem_def] at first ⊢
    rw [first]
    rfl
  · intro c last
    rw [trimWhere, List.getLast?_reverse] at last
    exact stops _ c last

end SchemaRecovery.Text

namespace SchemaRecovery.Script

open Text (LineAt isBlank isScriptLineEnd isTextLineEnd)

structure Window (line : List Char) (column : Int) (width : Nat) (shown : List Char) : Prop where
  part : ∃ left blank gap right, line = left ++ (blank ++ shown ++ gap) ++ right ∧
    left.length = min ((column - 1).toNat - width) line.length ∧
    (left ++ (blank ++ shown ++ gap)).length = min ((column - 1).toNat + width) line.length ∧
    ∀ c ∈ blank ++ gap, isBlank c = true
  start : ∀ c ∈ shown.head?, isBlank c = false
  stop : ∀ c ∈ shown.getLast?, isBlank c = false
  short : shown.length ≤ 2 * width

theorem excerpt_of_line_window (line : List Char) (column : Int) (width : Nat) :
    Window line column width (excerptOfLine line column width).toList := by
  have start : (Int.ofNat (column - 1).toNat - (width : Int)).toNat = (column - 1).toNat - width := by
    rw [Int.ofNat_eq_natCast]
    omega
  have stop : placeIn line (Int.ofNat (column - 1).toNat + (width : Int)) = (column - 1).toNat + width := by
    rw [Int.ofNat_eq_natCast, placeIn, if_neg (by omega)]
    omega
  simp only [excerptOfLine, start, stop, Text.trim, String.toList_ofList]
  obtain ⟨blank, gap, whole, blanks, first, last⟩ := Text.trim_where_parts isBlank
    ((line.drop ((column - 1).toNat - width)).take ((column - 1).toNat + width - ((column - 1).toNat - width)))
  have length := congrArg List.length whole
  simp only [List.length_append, List.length_take, List.length_drop] at length
  refine ⟨⟨line.take ((column - 1).toNat - width), blank, gap, (line.drop ((column - 1).toNat - width)).drop
    ((column - 1).toNat + width - ((column - 1).toNat - width)), ?_, ?_, ?_, blanks⟩, first, last, ?_⟩
  · rw [← whole, List.append_assoc, List.take_append_drop, List.take_append_drop]
  · rw [List.length_take]
  · rw [← whole, List.length_append, List.length_take, List.length_take, List.length_drop]
    omega
  · omega

def Shown (line after : List Char) (column : Int) (width : Nat) : Option String → Prop
  | none => line = [] ∧ after = []
  | some shown => ¬ (line = [] ∧ after = []) ∧ Window line column width shown.toList

theorem excerpt_of_text_line (source : String) (before line after : List Char) (number : Nat)
    (here : LineAt isTextLineEnd source.toList before line after number) (column : Int) (width : Nat) :
    Shown line after column width (excerpt source (number + 1) column width) := by
  have split := Text.split_line isTextLineEnd rfl rfl source.toList before line after number here
  rw [excerpt, if_neg (Nat.succ_ne_zero number), Nat.add_sub_cancel, split]
  split
  · assumption
  · exact ⟨‹_›, excerpt_of_line_window line column width⟩

theorem pass_append (before rest : List Char) (place : Place) (count : Nat) :
    Cursor.pass ⟨before ++ rest, place⟩ (before.length + count) =
      Cursor.pass (Cursor.pass ⟨before ++ rest, place⟩ before.length) count := by
  induction before generalizing place with
  | nil => rw [List.length_nil, Nat.zero_add, Cursor.pass]
  | cons c before ih =>
      have longer : before.length + 1 + count = before.length + count + 1 := by omega
      rw [List.length_cons, longer]
      exact ih (place.past c (before ++ rest))

theorem past_end (place : Place) (c : Char) (rest : List Char) (ends : Text.endsLine isScriptLineEnd c rest = true) :
    place.past c rest = ⟨place.index + 1, place.line + 1, place.index + 1⟩ := if_pos ends

theorem past_inside (place : Place) (c : Char) (rest : List Char) (goes : Text.endsLine isScriptLineEnd c rest = false) :
    place.past c rest = { place with index := place.index + 1 } := if_neg (ne_true_of_eq_false goes)

theorem pass_opened (before rest : List Char) (place : Place) (opened : Text.Opened isScriptLineEnd before rest) :
    Cursor.pass ⟨before ++ rest, place⟩ before.length =
      ⟨rest, place.index + before.length, place.line + Text.lineEnds isScriptLineEnd before,
        if before = [] then place.lineStart else place.index + before.length⟩ := by
  induction before generalizing place with
  | nil => rfl
  | cons c before ih =>
      have inner := ih (place.past c (before ++ rest)) (Text.opened_tail _ c before rest opened)
      have same := Text.ends_line_before isScriptLineEnd c before rest opened
      rw [List.cons_append, List.length_cons, Cursor.pass]
      dsimp only
      rw [inner, Text.lineEnds, if_neg (List.cons_ne_nil _ _)]
      cases ends : Text.endsLine isScriptLineEnd c before with
      | true =>
          have start : (if before = [] then place.index + 1 else place.index + 1 + before.length) =
              place.index + 1 + before.length := by
            split
            · rename_i last
              rw [last, List.length_nil, Nat.add_zero]
            · rfl
          rw [past_end place c _ (same.trans ends), Bool.toNat_true]
          dsimp only
          rw [start, Nat.add_assoc, Nat.add_assoc, Nat.add_comm 1 before.length]
      | false =>
          have later : before ≠ [] := by
            rintro rfl
            rw [Text.ends_line_alone _ c rest (opened c rfl)] at ends
            cases ends
          rw [past_inside place c _ (same.trans ends), Bool.toNat_false, Nat.zero_add, if_neg later]
          dsimp only
          rw [Nat.add_assoc, Nat.add_comm 1 before.length]

theorem pass_inside (line rest : List Char) (place : Place) (inside : ∀ c ∈ line, isScriptLineEnd c = false) :
    Cursor.pass ⟨line ++ rest, place⟩ line.length = ⟨rest, { place with index := place.index + line.length }⟩ := by
  induction line generalizing place with
  | nil => rfl
  | cons c line ih =>
      have inner := ih (place.past c (line ++ rest)) fun d member => inside d (List.mem_cons_of_mem _ member)
      have goes : Text.endsLine isScriptLineEnd c (line ++ rest) = false := by
        rw [Text.endsLine, inside c List.mem_cons_self, Bool.false_and]
      rw [List.cons_append, List.length_cons, Cursor.pass]
      dsimp only
      rw [inner, past_inside place c _ goes, Nat.add_assoc, Nat.add_comm 1]

theorem fault_in_line (text before left right after : List Char) (number : Nat) (filled : text ≠ [])
    (here : LineAt isScriptLineEnd text before (left ++ right) after number) (complaint : Complaint) :
    ((Cursor.ofText text).pass (before.length + left.length)).fault complaint =
      .refused (number + 1) (left.length + 1) complaint := by
  have inside : ∀ c ∈ left, isScriptLineEnd c = false := fun c member => here.inside c (List.mem_append_left _ member)
  have whole : text = before ++ (left ++ (right ++ after)) := by simp [here.whole]
  have opened := here.opened
  rw [List.append_assoc] at opened
  rw [Cursor.ofText, List.isEmpty_eq_false_iff.mpr filled, if_neg Bool.false_ne_true, whole, pass_append,
    pass_opened _ _ _ opened, pass_inside left _ _ inside, here.number]
  have start : (if before = [] then 0 else 0 + before.length) = before.length := by
    split
    · rename_i first
      rw [first, List.length_nil]
    · rw [Nat.zero_add]
  simp only [Cursor.fault, Place.fault, Place.column, start, Fault.refused.injEq, and_true]
  omega

theorem text_line_end (c : Char) (ends : isScriptLineEnd c = true) : isTextLineEnd c = true := by
  simp only [isScriptLineEnd, List.contains_iff_mem, List.mem_cons, List.not_mem_nil, or_false] at ends
  rcases ends with rfl | rfl | rfl | rfl <;> rfl

-- A character that ends a line for the excerpt but not for the script.
def Foreign (c : Char) : Prop := isTextLineEnd c = true ∧ isScriptLineEnd c = false

structure Reported (source : String) (before line after : List Char) (number : Nat) : Prop where
  -- What reports say of a line of a script: faults in it are given its number, and for that
  -- number there is an excerpt of a line, which is the same one unless a foreign character
  -- stands before its end.
  numbered : ∀ left right complaint, source.toList ≠ [] → line = left ++ right →
    ((Cursor.ofText source.toList).pass (before.length + left.length)).fault complaint =
      .refused (number + 1) (left.length + 1) complaint
  excerpt : ∃ earlier shown later, LineAt isTextLineEnd source.toList earlier shown later number ∧
    (∀ column (width : Nat), Shown shown later column width (excerpt source (number + 1) column width)) ∧
    (earlier = before ∧ shown = line ∧ later = after ↔ ∀ c ∈ before ++ line, ¬ Foreign c)

theorem excerpt_shows_line_iff (source : String) (number : Nat) :
    (∀ before line after, LineAt isScriptLineEnd source.toList before line after number →
      Reported source before line after number) ∧
    ((∀ before line after, ¬ LineAt isScriptLineEnd source.toList before line after number) →
      (∀ c ∈ source.toList, ¬ Foreign c) → ∀ column (width : Nat), excerpt source (number + 1) column width = none) := by
  have counts := Text.line_ends_wider isScriptLineEnd isTextLineEnd text_line_end rfl source.toList
  constructor
  · intro before line after here
    constructor
    · rintro left right complaint filled rfl
      exact fault_in_line source.toList before left right after number filled here complaint
    · have same := Text.line_at_wider_iff isScriptLineEnd isTextLineEnd text_line_end rfl _ before line after number here
      by_cases plain : ∀ c ∈ before ++ line, ¬ Foreign c
      · have there := same.mpr plain
        exact ⟨before, line, after, there, excerpt_of_text_line source before line after number there,
          iff_of_true ⟨rfl, rfl, rfl⟩ plain⟩
      · have few := Text.line_number_le isScriptLineEnd _ before line after number here
        obtain ⟨earlier, shown, later, there⟩ := Text.line_exists isTextLineEnd source.toList number (by omega)
        refine ⟨earlier, shown, later, there, excerpt_of_text_line source earlier shown later number there, ?_⟩
        refine iff_of_false ?_ plain
        rintro ⟨rfl, rfl, rfl⟩
        exact plain (same.mp there)
  · intro missing plain column width
    have none : (source.toList.countP fun c => isTextLineEnd c && !isScriptLineEnd c) = 0 := by
      simpa [List.countP_eq_zero, Foreign] using plain
    have length := Text.split_length isTextLineEnd rfl rfl source.toList
    have beyond : Text.lineEnds isScriptLineEnd source.toList < number := by
      by_contra few
      obtain ⟨before, line, after, here⟩ := Text.line_exists isScriptLineEnd source.toList number (by omega)
      exact missing before line after here
    rw [excerpt, if_neg (Nat.succ_ne_zero number), Nat.add_sub_cancel, List.getElem?_eq_none (by omega)]
    rfl

def formFeedSource : String := "var a = \"\x0c\";\nvar b = ;\n"

theorem form_feed_line :
    LineAt isScriptLineEnd formFeedSource.toList "var a = \"\x0c\";\n".toList "var b = ;".toList ['\n'] 1 := by
  have last : "var a = \"\x0c\";\n".toList.getLast? = some '\n' := by decide +kernel
  have inside : ("var b = ;".toList.all fun c => !isScriptLineEnd c) = true := by decide +kernel
  refine ⟨by decide +kernel, by decide +kernel, fun c member => ?_, by simpa using inside, fun c member => ?_⟩
  · rw [last] at member
    obtain rfl := Option.some.inj member
    rfl
  · obtain rfl := Option.some.inj member
    rfl

theorem excerpt_shows_line_form_feed :
    LineAt isScriptLineEnd formFeedSource.toList "var a = \"\x0c\";\n".toList "var b = ;".toList ['\n'] 1 ∧
      Reported formFeedSource "var a = \"\x0c\";\n".toList "var b = ;".toList ['\n'] 1 :=
  ⟨form_feed_line, (excerpt_shows_line_iff formFeedSource 1).1 _ _ _ form_feed_line⟩

def refusal? : Except Fault Node → Option Fault
  | .error fault => some fault
  | .ok _ => none

theorem form_feed_moves_excerpt :
    refusal? (parse formFeedSource) = some (.refused 2 9 (.unexpectedToken ";")) ∧
      LineAt isScriptLineEnd formFeedSource.toList "var a = \"\x0c\";\n".toList "var b = ;".toList ['\n'] 1 ∧
      ¬ Shown "var b = ;".toList ['\n'] 9 40 (excerpt formFeedSource 2 9 40) := by
  -- The report on the second line shows the end of the first one.
  refine ⟨by decide +kernel, form_feed_line, ?_⟩
  have shown : excerpt formFeedSource 2 9 40 = some "\";" := by decide +kernel
  rw [shown]
  rintro ⟨_, ⟨left, blank, gap, right, whole, _⟩, _⟩
  have member : '\"' ∈ "var b = ;".toList := by
    rw [whole]
    simp
  revert member
  decide

end SchemaRecovery.Script
