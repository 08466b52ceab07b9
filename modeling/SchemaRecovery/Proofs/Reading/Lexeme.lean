import SchemaRecovery.Proofs.Schema.Segments
import SchemaRecovery.Proto.Reading

set_option autoImplicit false

namespace SchemaRecovery.Proto

open Schema (IsName isNameText name_start_part)

theorem take_while_stop (holds : Char → Bool) (text rest : List Char) (next : Char) (all : ∀ c ∈ text, holds c)
    (stop : holds next = false) : (text ++ next :: rest).takeWhile holds = text := by
  rw [List.takeWhile_append_of_pos all, List.takeWhile_cons, stop]
  simp

theorem name_at_name (text rest : List Char) (next : Char) (named : isNameText text) (ends : isNamePart next = false) :
    nameAt (text ++ next :: rest) = some text := by
  cases text with
  | nil => cases named
  | cons c text =>
      simp only [isNameText, Bool.and_eq_true, List.all_eq_true] at named
      rw [List.cons_append, nameAt, if_pos named.1, take_while_stop _ _ _ _ named.2 ends]

theorem number_at_digits (text rest : List Char) (next : Char) (some : text ≠ []) (digits : ∀ c ∈ text, c.isDigit)
    (ends : next.isDigit = false) : numberAt (text ++ next :: rest) = Option.some text := by
  rw [numberAt, take_while_stop _ _ _ _ digits ends, if_neg (by simpa using some)]

theorem number_at_other (c : Char) (rest : List Char) (other : c.isDigit = false) : numberAt (c :: rest) = none := by
  simp [numberAt, other]

theorem name_start_other (c : Char) (start : isNameStart c) : c ≠ '\x22' ∧ c ≠ '+' ∧ c ≠ '-' ∧ c.isDigit = false := by
  refine ⟨?_, ?_, ?_, ?_⟩
  · rintro rfl
    exact absurd start (by decide)
  · rintro rfl
    exact absurd start (by decide)
  · rintro rfl
    exact absurd start (by decide)
  · rcases (Bool.or_eq_true _ _).mp start with letter | same
    · refine Bool.eq_false_iff.mpr fun digit => ?_
      have small : c.toNat ≤ 57 := (Char.isDigit_iff_toNat.mp digit).2
      rcases (Bool.or_eq_true _ _).mp letter with upper | lower
      · have large : 65 ≤ c.toNat := UInt32.le_iff_toNat_le.mp (of_decide_eq_true upper).1
        omega
      · have large : 97 ≤ c.toNat := UInt32.le_iff_toNat_le.mp (of_decide_eq_true ((Bool.and_eq_true _ _).mp lower).1)
        omega
    · rw [of_decide_eq_true same]
      decide

theorem quoted_text_other (c : Char) (rest : List Char) (other : c ≠ '\x22') : quotedTextAt (c :: rest) = none := by
  unfold quotedTextAt
  split
  · rename_i same
    exact absurd (List.cons.inj same).1 other
  · rfl

theorem signed_number_other (c : Char) (rest : List Char) (plus : c ≠ '+') (minus : c ≠ '-')
    (other : c.isDigit = false) : signedNumberAt (c :: rest) = none := by
  rw [signedNumberAt, if_neg (by simp [plus, minus]), number_at_other c rest other]

@[simp] theorem if_accepted_none (accepted : List Terminal) (terminal : Terminal) :
    ifAccepted accepted terminal none = none := by
  unfold ifAccepted
  split <;> rfl

theorem lexeme_at_word (accepted : List Terminal) (c : Char) (rest : List Char) (start : isNameStart c) :
    lexemeAt accepted (c :: rest) = (wordAt accepted (c :: rest)).or (markAt accepted (c :: rest)) := by
  obtain ⟨quote, plus, minus, digit⟩ := name_start_other c start
  simp [lexemeAt, quoted_text_other c rest quote, signed_number_other c rest plus minus digit,
    number_at_other c rest digit]

theorem lexeme_at_name (accepted : List Terminal) (text rest : List Char) (next : Char) (named : isNameText text)
    (ends : isNamePart next = false) (names : accepted.contains .name) :
    lexemeAt accepted (text ++ next :: rest) = some (classifyName accepted text) := by
  have found := name_at_name text rest next named ends
  cases text with
  | nil => cases named
  | cons c text =>
      simp only [isNameText, Bool.and_eq_true] at named
      rw [List.cons_append] at found ⊢
      rw [lexeme_at_word accepted c _ named.1, wordAt, if_pos names, found]
      rfl

theorem classify_plain (accepted : List Terminal) (text : List Char)
    (plain : ∀ word, accepted.contains (.keyword word) → word.spelling.toList ≠ text) :
    classifyName accepted text = ⟨.name, text⟩ := by
  have missed : Keyword.all.find? (fun word => word.spelling.toList = text && accepted.contains (.keyword word)) = none := by
    rw [List.find?_eq_none]
    intro word _ both
    rw [Bool.and_eq_true, decide_eq_true_eq] at both
    exact plain word both.2 both.1
  rw [classifyName, missed]

theorem spelling_injective (a b : Keyword) (same : a.spelling.toList = b.spelling.toList) : a = b := by
  revert same
  cases a <;> cases b <;> decide

theorem classify_word (accepted : List Terminal) (word : Keyword) (known : accepted.contains (.keyword word)) :
    classifyName accepted word.spelling.toList = ⟨.keyword word, word.spelling.toList⟩ := by
  have found : Keyword.all.find? (fun other => other.spelling.toList = word.spelling.toList &&
      accepted.contains (.keyword other)) = some word := by
    cases result : Keyword.all.find? (fun other => other.spelling.toList = word.spelling.toList &&
        accepted.contains (.keyword other)) with
    | none =>
        rw [List.find?_eq_none] at result
        exact absurd (by simpa using known) (result word (by cases word <;> decide))
    | some other =>
        have both := List.find?_some result
        rw [Bool.and_eq_true, decide_eq_true_eq] at both
        rw [spelling_injective other word both.1]
  rw [classifyName, found]

theorem spelling_named (word : Keyword) : isNameText word.spelling.toList := by
  cases word <;> decide

theorem mark_char_other (sign : Mark) : sign.char ≠ '\x22' ∧ sign.char ≠ '+' ∧ sign.char ≠ '-' ∧
    sign.char.isDigit = false ∧ isNameStart sign.char = false := by
  cases sign <;> decide

theorem keyword_at_mark (accepted : List Terminal) (sign : Mark) (rest : List Char) :
    keywordAt accepted (sign.char :: rest) = none := by
  have other (word : Keyword) : word.spelling.toList.isPrefixOf (sign.char :: rest) = false := by
    have named := spelling_named word
    cases text : word.spelling.toList with
    | nil => rw [text] at named; cases named
    | cons c more =>
        rw [text, isNameText, Bool.and_eq_true] at named
        have different : (c == sign.char) = false := by
          rw [beq_eq_false_iff_ne]
          intro same
          rw [same, (mark_char_other sign).2.2.2.2] at named
          exact Bool.false_ne_true named.1
        simp [List.isPrefixOf, different]
  simp [keywordAt, other]

theorem mark_at_mark (accepted : List Terminal) (sign : Mark) (rest : List Char)
    (known : accepted.contains (.mark sign)) : markAt accepted (sign.char :: rest) = some ⟨.mark sign, [sign.char]⟩ := by
  have only (other : Mark) : decide (other.char = sign.char) = decide (other = sign) := by
    cases other <;> cases sign <;> decide
  have found : Mark.all.find? (fun other => accepted.contains (.mark other) && decide (other.char = sign.char)) =
      some sign := by
    simp only [only]
    cases sign <;> simp_all [Mark.all, List.find?]
  rw [markAt, found]
  rfl

theorem lexeme_at_mark (accepted : List Terminal) (sign : Mark) (rest : List Char)
    (known : accepted.contains (.mark sign)) : lexemeAt accepted (sign.char :: rest) = some ⟨.mark sign, [sign.char]⟩ := by
  obtain ⟨quote, plus, minus, digit, start⟩ := mark_char_other sign
  have word : wordAt accepted (sign.char :: rest) = none := by
    unfold wordAt
    split
    · simp [nameAt, start]
    · exact keyword_at_mark accepted sign rest
  simp [lexemeAt, quoted_text_other _ rest quote, signed_number_other _ rest plus minus digit,
    number_at_other _ rest digit, word, mark_at_mark accepted sign rest known]

end SchemaRecovery.Proto
