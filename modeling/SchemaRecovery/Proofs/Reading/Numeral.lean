import SchemaRecovery.Proofs.Reading.Lexeme

set_option autoImplicit false

namespace SchemaRecovery.Decimal

open Proto (Lexeme Terminal lexemeAt ifAccepted number_at_digits signedNumberAt numberAt)

theorem digit_char_facts : ∀ n < 10, (digitChar n).isDigit ∧ Text.digitValue? (digitChar n) = some n ∧
    Text.isNumberBlank (digitChar n) = false ∧ (digitChar n).toNat - 0x30 = n ∧ digitChar n ≠ '_' ∧
    digitChar n ≠ '-' ∧ digitChar n ≠ '+' := by
  decide

theorem digits_chars (n : Nat) : ∀ c ∈ digits n, ∃ value < 10, c = digitChar value := by
  induction n using Nat.strongRecOn with
  | _ n ih =>
      unfold digits
      split
      · rename_i small
        simpa using ⟨n, small, rfl⟩
      · rename_i large
        intro c member
        rcases List.mem_append.mp member with before | last
        · exact ih (n / 10) (by omega) c before
        · exact ⟨n % 10, by omega, List.mem_singleton.mp last⟩

theorem digits_ne_nil (n : Nat) : digits n ≠ [] := by
  unfold digits
  split <;> simp

theorem digits_are_digits (n : Nat) : ∀ c ∈ digits n, c.isDigit := by
  intro c member
  obtain ⟨value, small, rfl⟩ := digits_chars n c member
  exact (digit_char_facts value small).1

theorem read_digits_value (text : List Char) (value : Nat) (plain : ∀ c ∈ text, ∃ digit < 10, c = digitChar digit) :
    readDigits value text = some (text.foldl (fun value c => value * 10 + (c.toNat - 0x30)) value) := by
  induction text generalizing value with
  | nil => rfl
  | cons c rest ih =>
      obtain ⟨digit, small, rfl⟩ := plain _ List.mem_cons_self
      obtain ⟨_, known, _, same, other, _⟩ := digit_char_facts digit small
      have further := ih (value * 10 + digit) fun c member => plain c (List.mem_cons_of_mem _ member)
      rw [readDigits, known, List.foldl_cons, same]
      · exact further
      · intro c rest blank
        exact absurd blank other

theorem read_natural_digits (n : Nat) : readNatural (digits n) = some n := by
  have plain := digits_chars n
  have value := value_of_digits n
  cases text : digits n with
  | nil => exact absurd text (digits_ne_nil n)
  | cons c rest =>
      rw [text] at plain value
      obtain ⟨digit, small, rfl⟩ := plain _ List.mem_cons_self
      obtain ⟨_, known, _, same, _⟩ := digit_char_facts digit small
      rw [readNatural, known, Option.bind_eq_bind, Option.bind_some,
        read_digits_value rest digit fun c member => plain c (List.mem_cons_of_mem _ member)]
      rw [valueOf, List.foldl_cons, same, Nat.zero_mul, Nat.zero_add] at value
      rw [value]

theorem trim_none (holds : Char → Bool) (text : List Char) (none : ∀ c ∈ text, holds c = false) :
    Text.trimWhere holds text = text := by
  have kept (text : List Char) (none : ∀ c ∈ text, holds c = false) : text.dropWhile holds = text := by
    cases text with
    | nil => rfl
    | cons c rest => rw [List.dropWhile_cons, none c List.mem_cons_self, if_neg Bool.false_ne_true]
  rw [Text.trimWhere, kept text none, kept _ fun c member => none c (List.mem_reverse.mp member), List.reverse_reverse]

theorem read_int_numeral (n : Int) : readInt (intNumeral n) = some n := by
  have plain (n : Nat) : ∀ c ∈ digits n, Text.isNumberBlank c = false := by
    intro c member
    obtain ⟨value, small, rfl⟩ := digits_chars n c member
    exact (digit_char_facts value small).2.2.1
  unfold readInt
  rw [intNumeral, String.toList_ofList]
  cases n with
  | ofNat n =>
      rw [intDigits, trim_none _ _ (plain n)]
      have natural := read_natural_digits n
      have chars := digits_chars n
      cases text : digits n with
      | nil => exact absurd text (digits_ne_nil n)
      | cons c rest =>
          rw [text] at natural chars
          obtain ⟨value, small, rfl⟩ := chars _ List.mem_cons_self
          obtain ⟨_, _, _, _, _, minus, plus⟩ := digit_char_facts value small
          split
          · rename_i same
            exact absurd (List.cons.inj same).1 minus
          · rename_i same
            exact absurd (List.cons.inj same).1 plus
          · rw [natural]
            rfl
  | negSucc n =>
      rw [intDigits, trim_none]
      · simp only [read_natural_digits]
        rfl
      · intro c member
        rcases List.mem_cons.mp member with rfl | digit
        · decide
        · exact plain (n + 1) c digit

theorem lexeme_at_number (n : Nat) (rest : List Char) (next : Char) (ends : next.isDigit = false) :
    lexemeAt [.number] (digits n ++ next :: rest) = some ⟨.number, digits n⟩ := by
  have found := number_at_digits (digits n) rest next (digits_ne_nil n) (digits_are_digits n) ends
  simp [lexemeAt, ifAccepted, found]

theorem signed_number_at_int (n : Int) (rest : List Char) (next : Char) (ends : next.isDigit = false) :
    signedNumberAt (intDigits n ++ next :: rest) = some (intDigits n) := by
  cases n with
  | ofNat n =>
      rw [intDigits]
      have found := number_at_digits (digits n) rest next (digits_ne_nil n) (digits_are_digits n) ends
      have chars := digits_chars n
      cases text : digits n with
      | nil => exact absurd text (digits_ne_nil n)
      | cons c more =>
          rw [text] at found chars
          obtain ⟨value, small, rfl⟩ := chars _ List.mem_cons_self
          obtain ⟨_, _, _, _, _, minus, plus⟩ := digit_char_facts value small
          rw [List.cons_append, signedNumberAt, if_neg (by simp [minus, plus])]
          exact found
  | negSucc n =>
      have found := number_at_digits (digits (n + 1)) rest next (digits_ne_nil _) (digits_are_digits _) ends
      rw [intDigits, List.cons_append, signedNumberAt, if_pos (.inr rfl), found]
      rfl

theorem lexeme_at_signed (n : Int) (rest : List Char) (next : Char) (ends : next.isDigit = false) :
    lexemeAt [.signedNumber] (intDigits n ++ next :: rest) = some ⟨.signedNumber, intDigits n⟩ := by
  have found := signed_number_at_int n rest next ends
  simp [lexemeAt, ifAccepted, found]

end SchemaRecovery.Decimal
