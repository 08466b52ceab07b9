import SchemaRecovery.Proofs.Reading.Numeral

set_option autoImplicit false

namespace SchemaRecovery.Proto

open Schema (IsName isNameText name_text_parts not_in_name)

abbrev Outcome := Except SyntaxFault (List Declaration) → Prop

def Gives (result : List Declaration) : Outcome := fun given => given = .ok result

def Outcome.Faulty (outcome : Outcome) : Prop := ∀ fault, outcome (.error fault)

def Reads (machine : Machine) (line : Nat) (text : List Char) (outcome : Outcome) : Prop :=
  ∀ last column, outcome (machine.run last ⟨text, ⟨line, column⟩⟩)

theorem run_eq (machine : Machine) (last : Place) (source : Source) :
    machine.run last source =
      match nextToken machine.point.accepted source with
      | .error fault => .error fault
      | .ok none =>
        if machine.mayEnd then .ok machine.done.reverse else .error (.unexpectedToken ⟨.endOfText, "", last⟩)
      | .ok (some (token, rest)) =>
        match machine.step token with
        | none => .error (.unexpectedToken token)
        | some machine => machine.run token.place rest := by
  rw [Machine.run]
  split
  · simp [*]
  · simp [*]
  · rename_i token rest found
    cases taken : machine.step token with
    | none => simp only [found, taken]
    | some next => simp only [found, taken]

theorem run_skip_gap (machine : Machine) (last : Place) (a b : Source) (same : a.skipGap = b.skipGap) :
    machine.run last a = machine.run last b := by
  rw [run_eq, run_eq]
  simp only [nextToken, same]

section
variable (machine : Machine) (line : Nat) (outcome : Outcome)

theorem reads_end (ends : machine.mayEnd) (given : outcome (.ok machine.done.reverse)) :
    Reads machine line [] outcome := by
  intro last column
  rw [run_eq]
  simpa [nextToken, Source.skipGap, gapAt, ends] using given

theorem reads_space (rest : List Char) (further : Reads machine line rest outcome) :
    Reads machine line (' ' :: rest) outcome := by
  intro last column
  refine (congrArg outcome (run_skip_gap _ _ _ _ ?_)).mpr (further last (column + 1))
  simp only [Source.skipGap]
  rfl

theorem reads_spaces (spaces rest : List Char) (blank : ∀ c ∈ spaces, c = ' ') (further : Reads machine line rest outcome) :
    Reads machine line (spaces ++ rest) outcome := by
  induction spaces with
  | nil => exact further
  | cons c spaces ih =>
      have space := blank c List.mem_cons_self
      subst space
      exact reads_space _ _ _ _ (ih fun other member => blank other (List.mem_cons_of_mem _ member))

theorem reads_line_feed (rest : List Char) (further : Reads machine (line + 1) rest outcome) :
    Reads machine line ('\n' :: rest) outcome := by
  intro last column
  refine (congrArg outcome (run_skip_gap _ _ _ _ ?_)).mpr (further last 1)
  simp only [Source.skipGap]
  rfl

theorem comment_line (text rest : List Char) (whole : '\n' ∉ text) :
    gapAt.comment (text ++ '\n' :: rest) = text ++ '\n' :: gapAt rest := by
  induction text with
  | nil => rw [List.nil_append, gapAt.comment, if_pos rfl, List.nil_append]
  | cons c text ih =>
      rw [List.mem_cons, not_or] at whole
      rw [List.cons_append, gapAt.comment, if_neg (Ne.symm whole.1), ih whole.2, List.cons_append]

theorem after_line (place : Place) (text : List Char) (whole : '\n' ∉ text) : (place.afterAll text).line = place.line := by
  induction text generalizing place with
  | nil => rfl
  | cons c text ih =>
      rw [List.mem_cons, not_or] at whole
      rw [Place.afterAll, List.foldl_cons]
      refine (ih (place.after c) whole.2).trans ?_
      rw [Place.after, if_neg (Ne.symm whole.1)]

theorem reads_comment (text rest : List Char) (whole : '\n' ∉ text) (further : Reads machine (line + 1) rest outcome) :
    Reads machine line ('/' :: '/' :: text ++ '\n' :: rest) outcome := by
  intro last column
  refine (congrArg outcome (run_skip_gap _ _ _ _ ?_)).mpr (further last 1)
  have slashes : '\n' ∉ '/' :: '/' :: text := by simp [whole]
  have ended : ((Place.mk line column).afterAll ('/' :: '/' :: text ++ ['\n'])) = ⟨line + 1, 1⟩ := by
    rw [Place.afterAll, List.foldl_append]
    change Place.after (Place.afterAll _ _) '\n' = _
    rw [Place.after, if_pos rfl, after_line _ _ slashes]
  have gap : gapAt ('/' :: '/' :: text ++ '\n' :: rest) = ('/' :: '/' :: text ++ ['\n']) ++ gapAt rest := by
    rw [List.cons_append, List.cons_append, gapAt, comment_line text rest whole]
    simp
  have split : '/' :: '/' :: text ++ '\n' :: rest = ('/' :: '/' :: text ++ ['\n']) ++ rest := by simp
  simp only [Source.skipGap, gap, Place.afterAll, List.foldl_append] at ended ⊢
  rw [ended, split, List.length_append, List.drop_append]
  simp

def isSolid (c : Char) : Bool := !isLayoutChar c && c ≠ '/'

theorem skip_gap_none (c : Char) (text : List Char) (place : Place) (solid : isSolid c) :
    (Source.mk (c :: text) place).skipGap = ⟨c :: text, place⟩ := by
  simp only [isSolid, Bool.and_eq_true, Bool.not_eq_true', decide_eq_true_eq] at solid
  have none : gapAt (c :: text) = [] := by
    rw [gapAt, solid.1]
    · rfl
    · intro _ same
      exact absurd same solid.2
  simp [Source.skipGap, none, Place.afterAll]

theorem solid_line (text : List Char) (solid : ∀ c ∈ text, isSolid c) : '\n' ∉ text :=
  fun member => absurd (solid _ member) (by decide)

theorem next_token_found (accepted : List Terminal) (lexeme : Lexeme) (rest : List Char) (place : Place)
    (found : lexemeAt accepted (lexeme.text ++ rest) = some lexeme) (solid : ∀ c ∈ lexeme.text, isSolid c) :
    nextToken accepted ⟨lexeme.text ++ rest, place⟩ =
      .ok (some (lexeme.token place, ⟨rest, place.afterAll lexeme.text⟩)) := by
  have some := lexeme_at_nonempty found
  cases start : lexeme.text with
  | nil => exact absurd start some
  | cons c text =>
      rw [start] at solid
      rw [start, List.cons_append] at found
      rw [List.cons_append, nextToken, skip_gap_none _ _ _ (solid c List.mem_cons_self)]
      simp only [found, Source.drop, start]
      simp

theorem reads_token (next : Machine) (lexeme : Lexeme) (rest : List Char)
    (found : lexemeAt machine.point.accepted (lexeme.text ++ rest) = some lexeme)
    (solid : ∀ c ∈ lexeme.text, isSolid c) (taken : ∀ column, machine.step (lexeme.token ⟨line, column⟩) = some next)
    (further : Reads next line rest outcome) : Reads machine line (lexeme.text ++ rest) outcome := by
  intro last column
  rw [run_eq, next_token_found _ lexeme rest _ found solid]
  simp only [taken]
  have same := after_line ⟨line, column⟩ lexeme.text (solid_line _ solid)
  cases place : (Place.mk line column).afterAll lexeme.text with
  | mk other after =>
      rw [place] at same
      change other = line at same
      subst same
      exact further _ after

theorem reads_unfound (c : Char) (rest : List Char) (faulty : outcome.Faulty)
    (missing : lexemeAt machine.point.accepted (c :: rest) = none) (solid : isSolid c) :
    Reads machine line (c :: rest) outcome := by
  intro last column
  rw [run_eq, nextToken, skip_gap_none c rest _ solid]
  simp only [missing]
  split
  · rename_i fault _
    exact faulty fault
  · rename_i same
    split at same <;> cases same
  · rename_i same
    split at same <;> cases same

theorem reads_untaken (lexeme : Lexeme) (rest : List Char) (faulty : outcome.Faulty)
    (found : lexemeAt machine.point.accepted (lexeme.text ++ rest) = some lexeme)
    (solid : ∀ c ∈ lexeme.text, isSolid c) (stuck : ∀ column, machine.step (lexeme.token ⟨line, column⟩) = none) :
    Reads machine line (lexeme.text ++ rest) outcome := by
  intro last column
  rw [run_eq, next_token_found _ lexeme rest _ found solid]
  simp only [stuck]
  exact faulty _

theorem name_part_solid (c : Char) (part : isNamePart c) : isSolid c := by
  simp only [isSolid, Bool.and_eq_true, Bool.not_eq_true', decide_eq_true_eq]
  constructor
  · rw [isLayoutChar, List.contains_eq_mem, decide_eq_false_iff_not]
    intro blank
    simp only [List.mem_cons, List.not_mem_nil, or_false] at blank
    rcases blank with rfl | rfl | rfl | rfl | rfl <;> exact absurd part (by decide)
  · rintro rfl
    exact absurd part (by decide)

theorem name_solid (text : List Char) (named : isNameText text) : ∀ c ∈ text, isSolid c :=
  fun c member => name_part_solid c (name_text_parts text named c member)

theorem int_solid (n : Int) : ∀ c ∈ Decimal.intDigits n, isSolid c := by
  have digits (n : Nat) : ∀ c ∈ Decimal.digits n, isSolid c := by
    intro c member
    exact name_part_solid c (by simp [isNamePart, Char.isAlphanum, Decimal.digits_are_digits n c member])
  cases n with
  | ofNat n => exact digits n
  | negSucc n =>
      intro c member
      rcases List.mem_cons.mp member with rfl | digit
      · decide
      · exact digits (n + 1) c digit

theorem reads_name (next : Machine) (name : String) (stop : Char) (rest : List Char) (named : IsName name)
    (ends : isNamePart stop = false) (names : machine.point.accepted.contains .name)
    (plain : ∀ word, machine.point.accepted.contains (.keyword word) → word.spelling ≠ name)
    (taken : ∀ column, machine.step ⟨.name, name, ⟨line, column⟩⟩ = some next)
    (further : Reads next line (stop :: rest) outcome) : Reads machine line (name.toList ++ stop :: rest) outcome := by
  have found := lexeme_at_name machine.point.accepted name.toList rest stop named ends names
  rw [classify_plain _ _ fun word known same => plain word known (String.toList_inj.mp same)] at found
  refine reads_token machine line outcome next ⟨.name, name.toList⟩ _ found (name_solid _ named) ?_ further
  intro column
  rw [Lexeme.token, String.ofList_toList]
  exact taken column

theorem reads_word (next : Machine) (word : Keyword) (stop : Char) (rest : List Char) (ends : isNamePart stop = false)
    (names : machine.point.accepted.contains .name) (known : machine.point.accepted.contains (.keyword word))
    (taken : ∀ text place, machine.step ⟨.keyword word, text, place⟩ = some next)
    (further : Reads next line (stop :: rest) outcome) :
    Reads machine line (word.spelling.toList ++ stop :: rest) outcome := by
  have named := spelling_named word
  have found := lexeme_at_name machine.point.accepted word.spelling.toList rest stop named ends names
  rw [classify_word _ word known] at found
  exact reads_token machine line outcome next ⟨.keyword word, word.spelling.toList⟩ _ found (name_solid _ named)
    (fun _ => taken _ _) further

theorem reads_mark (next : Machine) (sign : Mark) (rest : List Char)
    (known : machine.point.accepted.contains (.mark sign))
    (taken : ∀ text place, machine.step ⟨.mark sign, text, place⟩ = some next)
    (further : Reads next line rest outcome) : Reads machine line (sign.char :: rest) outcome := by
  have found := lexeme_at_mark machine.point.accepted sign rest known
  refine reads_token machine line outcome next ⟨.mark sign, [sign.char]⟩ rest found ?_ (fun _ => taken _ _) further
  intro c member
  rw [List.mem_singleton.mp member]
  cases sign <;> decide

theorem reads_number (next : Machine) (n : Nat) (stop : Char) (rest : List Char) (ends : stop.isDigit = false)
    (numbers : machine.point.accepted = [.number])
    (taken : ∀ place, machine.step ⟨.number, Decimal.numeral n, place⟩ = some next)
    (further : Reads next line (stop :: rest) outcome) : Reads machine line (Decimal.digits n ++ stop :: rest) outcome := by
  have found := Decimal.lexeme_at_number n rest stop ends
  rw [← numbers] at found
  exact reads_token machine line outcome next ⟨.number, Decimal.digits n⟩ _ found (int_solid n) (fun _ => taken _) further

theorem reads_signed (next : Machine) (n : Int) (stop : Char) (rest : List Char) (ends : stop.isDigit = false)
    (numbers : machine.point.accepted = [.signedNumber])
    (taken : ∀ place, machine.step ⟨.signedNumber, Decimal.intNumeral n, place⟩ = some next)
    (further : Reads next line (stop :: rest) outcome) : Reads machine line (Decimal.intDigits n ++ stop :: rest) outcome := by
  have found := Decimal.lexeme_at_signed n rest stop ends
  rw [← numbers] at found
  exact reads_token machine line outcome next ⟨.signedNumber, Decimal.intDigits n⟩ _ found (int_solid n)
    (fun _ => taken _) further

end

def Machine.runWithin (last : Place) (source : Source) (machine : Machine) :
    Nat → Option (Except SyntaxFault (List Declaration))
  | 0 => none
  | fuel + 1 =>
    match nextToken machine.point.accepted source with
    | .error fault => some (.error fault)
    | .ok none =>
      some (if machine.mayEnd then .ok machine.done.reverse else .error (.unexpectedToken ⟨.endOfText, "", last⟩))
    | .ok (some (token, rest)) =>
      match machine.step token with
      | none => some (.error (.unexpectedToken token))
      | some next => next.runWithin token.place rest fuel

theorem run_within (fuel : Nat) (machine : Machine) (last : Place) (source : Source)
    (result : Except SyntaxFault (List Declaration)) (ends : machine.runWithin last source fuel = some result) :
    machine.run last source = result := by
  induction fuel generalizing machine last source with
  | zero => cases ends
  | succ fuel ih =>
      rw [Machine.runWithin] at ends
      rw [run_eq]
      cases found : nextToken machine.point.accepted source with
      | error fault =>
          rw [found] at ends
          exact Option.some.inj ends
      | ok token =>
          rw [found] at ends
          cases token with
          | none => exact Option.some.inj ends
          | some pair =>
              obtain ⟨token, rest⟩ := pair
              simp only at ends ⊢
              cases taken : machine.step token with
              | none =>
                  rw [taken] at ends
                  exact Option.some.inj ends
              | some next =>
                  rw [taken] at ends
                  exact ih next token.place rest ends

end SchemaRecovery.Proto
