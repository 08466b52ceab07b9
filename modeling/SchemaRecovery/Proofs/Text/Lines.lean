import Mathlib.Data.List.TakeWhile
import SchemaRecovery.Text.Lines

set_option autoImplicit false

namespace SchemaRecovery.Text

def endsLine (isEnd : Char → Bool) (c : Char) (rest : List Char) : Bool :=
  isEnd c && !(c == '\r' && rest.head? == some '\n')

def lineEnds (isEnd : Char → Bool) : List Char → Nat
  | [] => 0
  | c :: rest => (endsLine isEnd c rest).toNat + lineEnds isEnd rest

def Opened (isEnd : Char → Bool) (before rest : List Char) : Prop :=
  ∀ last ∈ before.getLast?, endsLine isEnd last rest = true

structure LineAt (isEnd : Char → Bool) (text before line after : List Char) (number : Nat) : Prop where
  -- A line of a text, between what stands before it and what stands after it. Lines are counted
  -- from zero.
  whole : text = before ++ line ++ after
  number : lineEnds isEnd before = number
  opened : Opened isEnd before (line ++ after)
  inside : ∀ c ∈ line, isEnd c = false
  closed : ∀ c ∈ after.head?, isEnd c = true

section
variable (isEnd : Char → Bool)

theorem opened_tail (c : Char) (before rest : List Char) (opened : Opened isEnd (c :: before) rest) :
    Opened isEnd before rest := by
  cases before with
  | nil => simp [Opened]
  | cons next before => exact fun last member => opened last (by rwa [List.getLast?_cons_cons])

theorem ends_line_head (c : Char) (rest other : List Char) (same : rest.head? = other.head?) :
    endsLine isEnd c rest = endsLine isEnd c other := by
  rw [endsLine, endsLine, same]

theorem ends_line_other (c : Char) (rest : List Char) (other : c ≠ '\r') : endsLine isEnd c rest = isEnd c := by
  rw [endsLine, beq_eq_false_iff_ne.mpr other, Bool.false_and, Bool.not_false, Bool.and_true]

theorem ends_line_alone (c : Char) (rest : List Char) (ends : endsLine isEnd c rest = true) :
    endsLine isEnd c [] = true := by
  rw [endsLine, Bool.and_eq_true] at ends
  rw [endsLine, ends.1]
  simp

theorem ends_line_before (c : Char) (before rest : List Char) (opened : Opened isEnd (c :: before) rest) :
    endsLine isEnd c (before ++ rest) = endsLine isEnd c before := by
  cases before with
  | nil =>
      have ends : endsLine isEnd c rest = true := opened c rfl
      rw [List.nil_append, ends, ends_line_alone isEnd c rest ends]
  | cons next before => exact ends_line_head isEnd c _ _ rfl

theorem opened_ends (before rest : List Char) (opened : Opened isEnd before rest) (later : before ≠ []) :
    1 ≤ lineEnds isEnd before := by
  induction before with
  | nil => exact absurd rfl later
  | cons c before ih =>
      rw [lineEnds]
      cases before with
      | nil =>
          have ends := ends_line_alone isEnd c rest (opened c rfl)
          simp [ends, lineEnds]
      | cons next before =>
          have more := ih (opened_tail isEnd c _ rest opened) (List.cons_ne_nil _ _)
          omega

theorem line_ends_append (before rest : List Char) (opened : Opened isEnd before rest) :
    lineEnds isEnd (before ++ rest) = lineEnds isEnd before + lineEnds isEnd rest := by
  induction before with
  | nil => simp [lineEnds]
  | cons c before ih =>
      rw [List.cons_append, lineEnds, lineEnds, ih (opened_tail isEnd c before rest opened),
        ends_line_before isEnd c before rest opened, Nat.add_assoc]

theorem split_at_end (c : Char) (rest : List Char) (ends : endsLine isEnd c rest = true) :
    splitLines isEnd (c :: rest) = [] :: splitLines isEnd rest := by
  rw [endsLine, Bool.and_eq_true] at ends
  rw [splitLines, if_pos ends.1]
  rintro next rfl rfl
  simp at ends

section Split
variable (feed : isEnd '\n' = true) (carriage : isEnd '\r' = true)
include carriage

theorem split_inside (c : Char) (rest : List Char) (inside : isEnd c = false) :
    splitLines isEnd (c :: rest) =
      match splitLines isEnd rest with
      | [] => [[c]]
      | line :: lines => (c :: line) :: lines := by
  have other : c ≠ '\r' := by
    rintro rfl
    rw [carriage] at inside
    cases inside
  exact (splitLines.eq_3 isEnd c rest fun next same => absurd same other).trans (if_neg (by simp [inside]))

include feed in
theorem split_later (c : Char) (rest : List Char) (goes : endsLine isEnd c rest = false) (number : Nat) :
    (splitLines isEnd (c :: rest))[number + 1]? = (splitLines isEnd rest)[number + 1]? := by
  by_cases ends : isEnd c = true
  · simp only [endsLine, ends, Bool.true_and, Bool.not_eq_false', Bool.and_eq_true, beq_iff_eq] at goes
    obtain ⟨rfl, next⟩ := goes
    cases rest with
    | nil => cases next
    | cons d rest =>
        obtain rfl := Option.some.inj next
        have apart : endsLine isEnd '\n' rest = true := by simp [endsLine, feed]
        rw [splitLines, split_at_end isEnd '\n' rest apart]
  · rw [split_inside isEnd carriage c rest (by simpa using ends)]
    cases splitLines isEnd rest with
    | nil => rfl
    | cons line lines => rfl

theorem split_first (line after : List Char) (inside : ∀ c ∈ line, isEnd c = false)
    (closed : ∀ c ∈ after.head?, isEnd c = true) :
    (splitLines isEnd (line ++ after))[0]? = if line = [] ∧ after = [] then none else some line := by
  induction line with
  | nil =>
      cases after with
      | nil => rfl
      | cons c after =>
          rw [List.nil_append, if_neg (by simp)]
          by_cases pair : c = '\r' ∧ after.head? = some '\n'
          · obtain ⟨rfl, next⟩ := pair
            obtain ⟨rest, rfl⟩ := List.head?_eq_some_iff.mp next
            rfl
          · have ends : endsLine isEnd c after = true := by
              simpa [endsLine, closed c rfl] using not_and_or.mp pair
            rw [split_at_end isEnd c after ends]
            rfl
  | cons c line ih =>
      have rest := ih fun d member => inside d (List.mem_cons_of_mem _ member)
      rw [List.cons_append, split_inside isEnd carriage c _ (inside c List.mem_cons_self)]
      rw [if_neg (by simp)]
      split
      · rename_i none
        rw [none] at rest
        split at rest
        · rename_i empty
          rw [empty.1]
          rfl
        · cases rest
      · rename_i first lines split
        rw [split] at rest
        split at rest
        · cases rest
        · cases rest
          rfl

include feed

theorem split_opened (before rest : List Char) (opened : Opened isEnd before rest) (number : Nat) :
    (splitLines isEnd (before ++ rest))[lineEnds isEnd before + number]? = (splitLines isEnd rest)[number]? := by
  induction before with
  | nil => simp [lineEnds]
  | cons c before ih =>
      have inner := opened_tail isEnd c before rest opened
      have same := ends_line_before isEnd c before rest opened
      rw [List.cons_append, lineEnds]
      cases ends : endsLine isEnd c before with
      | true =>
          have later : true.toNat + lineEnds isEnd before + number = lineEnds isEnd before + number + 1 := by
            rw [Bool.toNat_true]
            omega
          rw [split_at_end isEnd c _ (same.trans ends), later, List.getElem?_cons_succ, ih inner]
      | false =>
          have some : 1 ≤ lineEnds isEnd before := by
            refine opened_ends isEnd before rest inner ?_
            rintro rfl
            rw [ends_line_alone isEnd c rest (opened c rfl)] at ends
            cases ends
          have later : false.toNat + lineEnds isEnd before + number = lineEnds isEnd before - 1 + number + 1 := by
            rw [Bool.toNat_false]
            omega
          have back : lineEnds isEnd before - 1 + number + 1 = lineEnds isEnd before + number := by omega
          rw [later, split_later isEnd feed carriage c _ (same.trans ends), back, ih inner]

theorem split_line (text before line after : List Char) (number : Nat) (here : LineAt isEnd text before line after number) :
    (splitLines isEnd text)[number]? = if line = [] ∧ after = [] then none else some line := by
  have first := split_first isEnd carriage line after here.inside here.closed
  have opened := split_opened isEnd feed carriage before (line ++ after) here.opened 0
  rw [here.whole, List.append_assoc, ← first, ← opened, here.number, Nat.add_zero]

theorem split_length (text : List Char) : (splitLines isEnd text).length ≤ lineEnds isEnd text + 1 := by
  induction text with
  | nil => simp [splitLines]
  | cons c rest ih =>
      rw [lineEnds]
      cases ends : endsLine isEnd c rest with
      | true =>
          rw [split_at_end isEnd c rest ends, List.length_cons, Bool.toNat_true]
          omega
      | false =>
          rw [Bool.toNat_false, Nat.zero_add]
          by_contra more
          have last := split_later isEnd feed carriage c rest ends (lineEnds isEnd rest)
          rw [List.getElem?_eq_none ih, List.getElem?_eq_none_iff] at last
          exact more last

end Split

theorem line_number_le (text before line after : List Char) (number : Nat)
    (here : LineAt isEnd text before line after number) : number ≤ lineEnds isEnd text := by
  rw [here.whole, List.append_assoc, line_ends_append isEnd before _ here.opened, here.number]
  omega

theorem line_behind (c : Char) (rest before line after : List Char) (number : Nat)
    (here : LineAt isEnd rest before line after number) (starts : before = [] → endsLine isEnd c rest = true) :
    LineAt isEnd (c :: rest) (c :: before) line after ((endsLine isEnd c rest).toNat + number) := by
  obtain ⟨rfl, rfl, opened, inside, closed⟩ := here
  cases before with
  | nil =>
      have ends := starts rfl
      refine ⟨rfl, ?_, fun last member => ?_, inside, closed⟩
      · simp only [ends, lineEnds, ends_line_alone isEnd c _ ends]
      · obtain rfl := Option.some.inj member
        exact ends
  | cons next before =>
      refine ⟨rfl, ?_, fun last member => ?_, inside, closed⟩
      · rw [lineEnds, ends_line_head isEnd c (next :: before) (next :: before ++ line ++ after) rfl]
      · exact opened last (by rwa [List.getLast?_cons_cons] at member)

theorem line_exists (text : List Char) (number : Nat) (few : number ≤ lineEnds isEnd text) :
    ∃ before line after, LineAt isEnd text before line after number := by
  induction text generalizing number with
  | nil =>
      obtain rfl : number = 0 := by simpa [lineEnds] using few
      exact ⟨[], [], [], rfl, rfl, by simp [Opened], by simp, by simp⟩
  | cons c rest ih =>
      cases number with
      | zero =>
          refine ⟨[], (c :: rest).takeWhile (!isEnd ·), (c :: rest).dropWhile (!isEnd ·), by simp, rfl, by simp [Opened],
            ?_, ?_⟩
          · intro d member
            simpa using List.mem_takeWhile_imp member
          · intro d member
            have stops := List.head?_dropWhile_not (!isEnd ·) (c :: rest)
            rw [Option.mem_def] at member
            simpa [member] using stops
      | succ number =>
          rw [lineEnds] at few
          cases ends : endsLine isEnd c rest with
          | true =>
              rw [ends, Bool.toNat_true] at few
              obtain ⟨before, line, after, here⟩ := ih number (by omega)
              have longer := line_behind isEnd c rest before line after number here fun _ => ends
              rw [ends, Bool.toNat_true, Nat.add_comm] at longer
              exact ⟨c :: before, line, after, longer⟩
          | false =>
              rw [ends, Bool.toNat_false, Nat.zero_add] at few
              obtain ⟨before, line, after, here⟩ := ih (number + 1) few
              have later : before ≠ [] := by
                rintro rfl
                exact absurd here.number (Nat.succ_ne_zero number).symm
              have longer := line_behind isEnd c rest before line after (number + 1) here fun first => absurd first later
              rw [ends, Bool.toNat_false, Nat.zero_add] at longer
              exact ⟨c :: before, line, after, longer⟩

section Wider
variable (isOther : Char → Bool) (wider : ∀ c, isEnd c = true → isOther c = true) (carriage : isEnd '\r' = true)
include wider carriage

theorem line_ends_wider (text : List Char) :
    lineEnds isOther text = lineEnds isEnd text + text.countP fun c => isOther c && !isEnd c := by
  induction text with
  | nil => rfl
  | cons c rest ih =>
      have here : (endsLine isOther c rest).toNat = (endsLine isEnd c rest).toNat + (isOther c && !isEnd c).toNat := by
        cases known : isEnd c with
        | true => simp [endsLine, known, wider c known]
        | false =>
            have other : c ≠ '\r' := by
              rintro rfl
              rw [carriage] at known
              cases known
            simp [ends_line_other isEnd c rest other, ends_line_other isOther c rest other, known]
      rw [lineEnds, lineEnds, here, ih, List.countP_cons]
      cases isOther c && !isEnd c <;> simp <;> omega

theorem line_at_wider_iff (text before line after : List Char) (number : Nat)
    (here : LineAt isEnd text before line after number) :
    LineAt isOther text before line after number ↔ ∀ c ∈ before ++ line, ¬ (isOther c = true ∧ isEnd c = false) := by
  have count := line_ends_wider isEnd isOther wider carriage before
  have foreign : (before.countP fun c => isOther c && !isEnd c) = 0 ↔
      ∀ c ∈ before, ¬ (isOther c = true ∧ isEnd c = false) := by
    simp [List.countP_eq_zero]
  constructor
  · intro there c member
    rcases List.mem_append.mp member with outside | inside
    · rw [there.number, here.number] at count
      exact foreign.mp (by omega) c outside
    · exact fun ends => by simp [there.inside c inside] at ends
  · intro plain
    refine ⟨here.whole, ?_, fun last member => ?_, fun c member => ?_, fun c member => wider c (here.closed c member)⟩
    · rw [count, foreign.mpr fun c member => plain c (List.mem_append_left _ member), here.number, Nat.add_zero]
    · have ends := here.opened last member
      rw [endsLine, Bool.and_eq_true] at ends ⊢
      exact ⟨wider last ends.1, ends.2⟩
    · simpa [here.inside c member] using plain c (List.mem_append_right _ member)

end Wider

end

end SchemaRecovery.Text
