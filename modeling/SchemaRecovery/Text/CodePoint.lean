set_option autoImplicit false

namespace SchemaRecovery.Text

def isHighHalf (code : Nat) : Bool := 0xD800 ≤ code && code < 0xDC00

def isLowHalf (code : Nat) : Bool := 0xDC00 ≤ code && code < 0xE000

def isHalf (code : Nat) : Bool := isHighHalf code || isLowHalf code

def charOf? (code : Nat) : Option Char :=
  if isHalf code then none else some (Char.ofNat code)

def IsScalar (code : Nat) : Prop := code < 0xD800 ∨ 0xDFFF < code ∧ code < 0x110000

theorem scalar_code (code : Nat) (scalar : IsScalar code) : (Char.ofNat code).toNat = code := by
  have valid : code.isValidChar := scalar
  rw [Char.ofNat, dif_pos valid]
  rfl

theorem is_half_iff (code : Nat) : isHalf code = true ↔ 0xD800 ≤ code ∧ code < 0xE000 := by
  simp only [isHalf, isHighHalf, isLowHalf, Bool.or_eq_true, Bool.and_eq_true, decide_eq_true_eq]
  omega

theorem char_whole (c : Char) : isHalf c.toNat = false := by
  have scalar : IsScalar c.toNat := c.valid
  unfold IsScalar at scalar
  rw [Bool.eq_false_iff, ne_eq, is_half_iff]
  omega

theorem char_of_code (c : Char) : charOf? c.toNat = some c := by
  rw [charOf?, char_whole, if_neg Bool.false_ne_true, Char.ofNat_toNat]

theorem char_of_some (code : Nat) (c : Char) (point : code < 0x110000) (found : charOf? code = some c) : c.toNat = code := by
  rw [charOf?] at found
  split at found
  · cases found
  · rename_i whole
    rw [is_half_iff] at whole
    obtain rfl := Option.some.inj found
    refine scalar_code code ?_
    unfold IsScalar
    omega

theorem char_of_none_iff (code : Nat) : charOf? code = none ↔ isHalf code = true := by
  rw [charOf?]
  split <;> simp_all

-- A text may hold halves of pairs, which are no characters. Such a code is written as a mark and
-- a character that stands in for it, and the mark itself is written so too.
def standInMark : Char := '\uD7FF'

def standIn (code : Nat) : Char := Char.ofNat (code + 0x102000)

def hold (code : Nat) : List Char :=
  if 0xD7FF ≤ code ∧ code < 0xE000 then [standInMark, standIn code] else [Char.ofNat code]

def held (codes : List Nat) : List Char := codes.flatMap hold

def codes : List Char → List Nat
  -- A mark that no such character follows stands for itself.
  | [] => []
  | [c] => [c.toNat]
  | c :: next :: rest =>
    if c = standInMark ∧ 0x10F7FF ≤ next.toNat then (next.toNat - 0x102000) :: codes rest
    else c.toNat :: codes (next :: rest)

theorem codes_cons (c : Char) (rest : List Char) (plain : c ≠ standInMark) : codes (c :: rest) = c.toNat :: codes rest := by
  cases rest with
  | nil => rfl
  | cons next rest => rw [codes, if_neg fun marked => plain marked.1]

theorem codes_plain (text : List Char) (plain : standInMark ∉ text) : codes text = text.map Char.toNat := by
  induction text with
  | nil => rfl
  | cons c rest ih =>
      rw [List.mem_cons, not_or] at plain
      rw [codes_cons c rest (Ne.symm plain.1), ih plain.2, List.map_cons]

theorem code_bounded (c : Char) : c.toNat < 0x110000 := by
  have scalar : IsScalar c.toNat := c.valid
  unfold IsScalar at scalar
  omega

theorem codes_bounded (text : List Char) : ∀ code ∈ codes text, code < 0x110000 := by
  fun_induction codes text with
  | case1 => exact nofun
  | case2 c => simpa using code_bounded c
  | case3 c next rest marked ih =>
      have bounded := code_bounded next
      exact List.forall_mem_cons.mpr ⟨by omega, ih⟩
  | case4 c next rest plain ih => exact List.forall_mem_cons.mpr ⟨code_bounded c, ih⟩

theorem codes_hold (code : Nat) (point : code < 0x110000) (rest : List Char) :
    codes (hold code ++ rest) = code :: codes rest := by
  rw [hold]
  split
  · have shown : (standIn code).toNat = code + 0x102000 := scalar_code _ (.inr (by omega))
    rw [List.cons_append, List.singleton_append, codes, shown, if_pos ⟨rfl, by omega⟩, Nat.add_sub_cancel]
  · have scalar : IsScalar code := by
      unfold IsScalar
      omega
    have same : (Char.ofNat code).toNat = code := scalar_code code scalar
    have plain : Char.ofNat code ≠ standInMark := by
      intro mark
      have equal : code = 0xD7FF := by
        rw [← same, mark]
        rfl
      omega
    rw [List.singleton_append, codes_cons _ _ plain, same]

theorem codes_held (points : List Nat) (valid : ∀ code ∈ points, code < 0x110000) : codes (held points) = points := by
  induction points with
  | nil => rfl
  | cons code rest ih =>
      obtain ⟨point, others⟩ := List.forall_mem_cons.mp valid
      rw [held, List.flatMap_cons, codes_hold code point, ← held, ih others]

theorem held_injective (left right : List Nat) (leftValid : ∀ code ∈ left, code < 0x110000)
    (rightValid : ∀ code ∈ right, code < 0x110000) (same : held left = held right) : left = right := by
  rw [← codes_held left leftValid, same, codes_held right rightValid]

end SchemaRecovery.Text
