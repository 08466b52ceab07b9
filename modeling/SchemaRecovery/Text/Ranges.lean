set_option autoImplicit false

namespace SchemaRecovery.Text

def within (c : Char) (range : Nat × Nat) : Bool :=
  decide (range.1 ≤ c.toNat ∧ c.toNat ≤ range.2)

def inRanges (ranges : List (Nat × Nat)) (c : Char) : Bool :=
  ranges.any (within c)

theorem in_ranges_iff (ranges : List (Nat × Nat)) (c : Char) :
    inRanges ranges c = true ↔ ∃ range ∈ ranges, range.1 ≤ c.toNat ∧ c.toNat ≤ range.2 := by
  simp [inRanges, within]

end SchemaRecovery.Text
