import Mathlib.Data.List.Forall2
import SchemaRecovery.Text.LowerCase

set_option autoImplicit false

namespace SchemaRecovery.Text

def PlainLetter (c : Char) : Prop := 0x61 ≤ c.toNat ∧ c.toNat ≤ 0x7A ∧ c.toNat ≠ 0x6B

def Spells (word text : List Char) : Prop :=
  List.Forall₂ (fun letter written => written = letter ∨ written = letter.toUpper) word text

theorem ascii_forall (P : Char → Prop) (every : ∀ code < 0x80, P (Char.ofNat code)) (c : Char) (ascii : c.toNat < 0x80) :
    P c := by
  have here := every c.toNat ascii
  rwa [Char.ofNat_toNat] at here

theorem ascii_lower_cases (c : Char) (ascii : c.toNat < 0x80) : c = c.toLower ∨ c = c.toLower.toUpper :=
  ascii_forall (fun c => c = c.toLower ∨ c = c.toLower.toUpper) (by decide) c ascii

theorem plain_letter_lower (c : Char) (plain : PlainLetter c) :
    c.toLower = c ∧ c.toUpper.toLower = c ∧ c.toUpper.toNat < 0x80 := by
  obtain ⟨low, high, _⟩ := plain
  exact ascii_forall (fun c => 0x61 ≤ c.toNat → c.toNat ≤ 0x7A →
    c.toLower = c ∧ c.toUpper.toLower = c ∧ c.toUpper.toNat < 0x80) (by decide) c (by omega) low high

theorem run_images : ∀ run ∈ lowerRuns, run.first = 0x41 ∧ run.last = 0x5A ∨ 0x80 ≤ run.image ∨
    run.first = 0x212A ∧ run.last = 0x212A ∧ run.image = 0x6B := by
  decide +kernel

theorem image_foreign (code image : Nat) (beyond : 0x80 ≤ code)
    (found : lowerRuns.findSome? (·.image? code) = some image) : 0x80 ≤ image ∨ image = 0x6B := by
  obtain ⟨run, member, inside⟩ := List.exists_of_findSome?_eq_some found
  rw [CaseRun.image?] at inside
  split at inside
  · rename_i within
    cases inside
    rcases run_images run member with ⟨first, last⟩ | high | ⟨first, last, kelvin⟩ <;> omega
  · cases inside

theorem foreign_not_plain (image : Nat) (foreign : 0x80 ≤ image ∨ image = 0x6B) : ¬ PlainLetter (Char.ofNat image) := by
  have code : (Char.ofNat image).toNat = image ∨ (Char.ofNat image).toNat = 0 := by
    by_cases valid : image.isValidChar
    · rw [Char.ofNat, dif_pos valid]
      exact .inl rfl
    · rw [Char.ofNat, dif_neg valid]
      exact .inr rfl
  rintro ⟨low, high, other⟩
  omega

theorem lower_char_iff (c letter : Char) (plain : PlainLetter letter) (others : List Char) (rest : List Char)
    (small : ∀ letter ∈ rest, PlainLetter letter) :
    lowerChar c ++ others = letter :: rest ↔ (c = letter ∨ c = letter.toUpper) ∧ others = rest := by
  obtain ⟨same, upper, ascii⟩ := plain_letter_lower letter plain
  have beyond (high : ¬ c.toNat < 0x80) : ¬ (c = letter ∨ c = letter.toUpper) := by
    rintro (rfl | rfl)
    · have := plain.2.1
      omega
    · exact high ascii
  unfold lowerChar
  split
  · rename_i low
    rw [List.singleton_append, List.cons.injEq]
    refine and_congr_left fun _ => ⟨?_, ?_⟩
    · rintro rfl
      exact ascii_lower_cases c low
    · rintro (rfl | rfl)
      · exact same
      · exact upper
  · rename_i high
    simp only [beyond high, false_and, iff_false]
    split
    · intro equal
      cases equal
      exact absurd (small _ List.mem_cons_self).2.1 (by decide)
    · intro equal
      rw [List.singleton_append, List.cons.injEq] at equal
      cases found : lowerRuns.findSome? (·.image? c.toNat) with
      | none =>
          rw [found] at equal
          exact beyond high (.inl equal.1)
      | some image =>
          have image_is : Char.ofNat image = letter := by rw [← equal.1, found]; rfl
          exact foreign_not_plain image (image_foreign _ _ (by omega) found) (image_is ▸ plain)

theorem lower_after_iff (before text word : List Char) (plain : ∀ letter ∈ word, PlainLetter letter) :
    lowerAfter before text = word ↔ Spells word text := by
  induction text generalizing before word with
  | nil => cases word <;> simp [lowerAfter, Spells]
  | cons c rest ih =>
      cases word with
      | nil =>
          simp only [Spells, List.forall₂_nil_left_iff, reduceCtorEq, iff_false]
          rw [lowerAfter]
          split
          · exact List.cons_ne_nil _ _
          · unfold lowerChar
            split
            · exact List.cons_ne_nil _ _
            · split <;> exact List.cons_ne_nil _ _
      | cons letter others =>
          have first := plain letter List.mem_cons_self
          have later : ∀ letter ∈ others, PlainLetter letter := fun letter member => plain letter (List.mem_cons_of_mem _ member)
          have spelled : Spells (letter :: others) (c :: rest) ↔
              (c = letter ∨ c = letter.toUpper) ∧ lowerAfter (c :: before) rest = others := by
            rw [ih (c :: before) others later, Spells, List.forall₂_cons, Spells]
          rw [spelled, lowerAfter]
          split
          · rename_i sigma
            constructor
            · intro equal
              rw [List.cons.injEq] at equal
              refine absurd (equal.1 ▸ first) ?_
              split <;> exact fun plain => absurd plain.2.1 (by decide)
            · rintro ⟨rfl | rfl, _⟩
              · have := first.2.1
                omega
              · have := (plain_letter_lower letter first).2.2
                omega
          · exact lower_char_iff c letter first _ others later

theorem lower_iff_spells (text word : String) (plain : ∀ letter ∈ word.toList, PlainLetter letter) :
    lower text = word ↔ Spells word.toList text.toList := by
  rw [← lower_after_iff [] text.toList word.toList plain, lower]
  constructor
  · rintro rfl
    exact String.toList_ofList.symm
  · intro same
    rw [same, String.ofList_toList]

end SchemaRecovery.Text
