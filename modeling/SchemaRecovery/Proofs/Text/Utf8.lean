import Mathlib.Algebra.Group.Nat.Defs
import SchemaRecovery.Text.Utf8

set_option autoImplicit false

namespace SchemaRecovery.Text.Utf8

def tailBytes : Nat → Nat → List UInt8
  | 0, _ => []
  | count + 1, code => UInt8.ofNat (code / 64 ^ count % 64 + 0x80) :: tailBytes count code

structure Begun.Completes (begun : Begun) (count code : Nat) : Prop where
  owed : begun.owed = count + 1
  bits : code / 64 ^ count / 64 = begun.bits
  low : begun.low.toNat ≤ code / 64 ^ count % 64 + 0x80
  high : code / 64 ^ count % 64 + 0x80 ≤ begun.high.toNat

theorem byte_of_nat_iff (byte : UInt8) (value : Nat) (small : value < 256) :
    byte = UInt8.ofNat value ↔ byte.toNat = value := by
  rw [← UInt8.toNat_inj, UInt8.toNat_ofNat_of_lt' small]

def Begun.next (begun : Begun) (byte : UInt8) : Begun :=
  ⟨begun.owed - 1, 0x80, 0xBF, begun.bits * 0x40 + (byte.toNat - 0x80), begun.first, begun.taken + 1⟩

theorem decode_next (done : List Char) (position : Nat) (begun : Begun) (byte : UInt8) (rest : List UInt8)
    (text : List Char) : decodeFrom done position (some begun) (byte :: rest) = .ok text ↔
      (begun.low.toNat ≤ byte.toNat ∧ byte.toNat ≤ begun.high.toNat) ∧
        (if begun.owed ≤ 1 then decodeFrom (Char.ofNat (begun.next byte).bits :: done) (position + 1) none rest
        else decodeFrom done (position + 1) (some (begun.next byte)) rest) = .ok text := by
  rw [decodeFrom]
  simp only [UInt8.lt_iff_toNat_lt]
  split
  · refine iff_of_false nofun ?_
    rintro ⟨⟨low, high⟩, _⟩
    omega
  · rename_i within
    rw [and_iff_right ⟨by omega, by omega⟩]
    rfl

theorem completes_next (begun : Begun) (count code : Nat) (byte : UInt8) (owed : begun.owed = count + 2)
    (above : 0x80 ≤ byte.toNat) (low : begun.low.toNat ≤ byte.toNat) (high : byte.toNat ≤ begun.high.toNat)
    (below : byte.toNat ≤ 0xBF) :
    (begun.next byte).Completes count code ↔
      begun.Completes (count + 1) code ∧ byte.toNat = code / 64 ^ (count + 1) % 64 + 0x80 := by
  have quotient : code / 64 ^ (count + 1) = code / 64 ^ count / 64 := by rw [Nat.pow_succ, Nat.div_div_eq_div_mul]
  have remainder : code / 64 ^ count % 64 < 64 := Nat.mod_lt _ (by decide)
  constructor
  · rintro ⟨_, bits, _, _⟩
    dsimp only [Begun.next] at bits
    have same : byte.toNat = code / 64 ^ (count + 1) % 64 + 0x80 := by omega
    exact ⟨⟨owed, by omega, by omega, by omega⟩, same⟩
  · rintro ⟨⟨_, bits, _, _⟩, same⟩
    have next : (begun.next byte).owed = count + 1 := by
      rw [Begun.next, owed]
      rfl
    refine ⟨next, ?_, ?_, ?_⟩
    · dsimp only [Begun.next]
      omega
    · dsimp only [Begun.next]
      exact Nat.le_add_left _ _
    · dsimp only [Begun.next]
      exact Nat.add_le_add_right (Nat.le_of_lt_succ remainder) _

theorem decode_tail (done : List Char) (count position : Nat) (begun : Begun) (owed : begun.owed = count + 1)
    (low : 0x80 ≤ begun.low.toNat) (high : begun.high.toNat ≤ 0xBF) (bytes : List UInt8) (text : List Char) :
    decodeFrom done position (some begun) bytes = .ok text ↔
      ∃ code rest, bytes = tailBytes (count + 1) code ++ rest ∧ begun.Completes count code ∧
        decodeFrom (Char.ofNat code :: done) (position + (count + 1)) none rest = .ok text := by
  -- On the bytes still owed. The next one may have narrower bounds than those behind it.
  induction count generalizing position begun bytes with
  | zero =>
      cases bytes with
      | nil =>
          refine iff_of_false nofun ?_
          rintro ⟨code, rest, whole, _⟩
          cases whole
      | cons byte bytes =>
          rw [decode_next, if_pos (by omega)]
          constructor
          · rintro ⟨⟨above, below⟩, decoded⟩
            have code : begun.bits * 64 + (byte.toNat - 0x80) = (begun.next byte).bits := rfl
            have byte_eq : byte = UInt8.ofNat ((begun.next byte).bits / 64 ^ 0 % 64 + 0x80) := by
              rw [byte_of_nat_iff _ _ (by omega)]
              omega
            refine ⟨(begun.next byte).bits, bytes, ?_, ⟨owed, ?_, ?_, ?_⟩, decoded⟩
            · rw [tailBytes, tailBytes, ← byte_eq]
              rfl
            · omega
            · omega
            · omega
          · rintro ⟨code, rest, whole, ⟨_, bits, above, below⟩, decoded⟩
            obtain ⟨first, rfl⟩ := List.cons.inj whole
            rw [byte_of_nat_iff _ _ (by omega)] at first
            rw [Nat.pow_zero, Nat.div_one] at first bits above below
            have same : (begun.next byte).bits = code := by
              dsimp only [Begun.next]
              omega
            rw [same]
            exact ⟨⟨by omega, by omega⟩, decoded⟩
  | succ count ih =>
      cases bytes with
      | nil =>
          refine iff_of_false nofun ?_
          rintro ⟨code, rest, whole, _⟩
          cases whole
      | cons byte bytes =>
          have next : (begun.next byte).owed = count + 1 := by
            rw [Begun.next, owed]
            rfl
          have later : position + 1 + (count + 1) = position + (count + 1 + 1) := by omega
          rw [decode_next, if_neg (by omega), ih (position + 1) (begun.next byte) next (Nat.le_refl 0x80) (Nat.le_refl 0xBF),
            later]
          constructor
          · rintro ⟨⟨above, below⟩, code, rest, rfl, completes, decoded⟩
            rw [completes_next begun count code byte owed (by omega) above below (by omega)] at completes
            obtain ⟨whole, same⟩ := completes
            refine ⟨code, rest, ?_, whole, decoded⟩
            exact congrArg (· :: (tailBytes (count + 1) code ++ rest)) ((byte_of_nat_iff byte _ (by omega)).mpr same)
          · rintro ⟨code, rest, whole, completes, decoded⟩
            obtain ⟨first, rfl⟩ := List.cons.inj whole
            have same := (byte_of_nat_iff byte _ (by omega)).mp first
            have within : begun.low.toNat ≤ byte.toNat ∧ byte.toNat ≤ begun.high.toNat := by
              rw [same]
              exact ⟨completes.low, completes.high⟩
            refine ⟨within, code, rest, rfl, ?_, decoded⟩
            exact (completes_next begun count code byte owed (by omega) within.1 within.2 (by omega)).mpr ⟨completes, same⟩

inductive Encodes : Nat → Nat → UInt8 → Prop where
  | two (code : Nat) (above : 0x80 ≤ code) (below : code < 0x800) : Encodes 1 code (UInt8.ofNat (code / 64 ^ 1 + 0xC0))
  | three (code : Nat) (above : 0x800 ≤ code) (below : code < 0x10000) (scalar : IsScalar code) :
    Encodes 2 code (UInt8.ofNat (code / 64 ^ 2 + 0xE0))
  | four (code : Nat) (above : 0x10000 ≤ code) (below : code < 0x110000) :
    Encodes 3 code (UInt8.ofNat (code / 64 ^ 3 + 0xF0))

theorem encodes_char (count code : Nat) (byte : UInt8) (encodes : Encodes count code byte) :
    IsScalar code ∧ String.utf8EncodeChar (Char.ofNat code) = byte :: tailBytes count code := by
  have scalar : IsScalar code := by
    cases encodes with
    | two code above below => exact .inl (by omega)
    | three code above below scalar => exact scalar
    | four code above below => exact .inr (by omega)
  have code_eq : (Char.ofNat code).val.toNat = code := scalar_code code scalar
  refine ⟨scalar, ?_⟩
  simp only [String.utf8EncodeChar, code_eq]
  cases encodes with
  | two code above below =>
      rw [if_neg (by omega), if_pos (by omega), Nat.mod_eq_of_lt (by omega)]
      simp [tailBytes]
  | three code above below scalar =>
      rw [if_neg (by omega), if_neg (by omega), if_pos (by omega), Nat.mod_eq_of_lt (by omega)]
      simp [tailBytes]
  | four code above below =>
      rw [if_neg (by omega), if_neg (by omega), if_neg (by omega), Nat.mod_eq_of_lt (by omega)]
      simp [tailBytes]

theorem char_encodes (c : Char) : c.toNat < 0x80 ∧ String.utf8EncodeChar c = [UInt8.ofNat c.toNat] ∨
    ∃ count byte, Encodes (count + 1) c.toNat byte := by
  have scalar : IsScalar c.toNat := c.valid
  have below : c.toNat < 0x110000 := by
    unfold IsScalar at scalar
    omega
  by_cases one : c.toNat < 0x80
  · refine .inl ⟨one, ?_⟩
    rw [String.utf8EncodeChar]
    exact if_pos (by change c.toNat ≤ 0x7F; omega)
  · refine .inr ?_
    by_cases two : c.toNat < 0x800
    · exact ⟨0, _, .two _ (by omega) two⟩
    · by_cases three : c.toNat < 0x10000
      · exact ⟨1, _, .three _ (by omega) three scalar⟩
      · exact ⟨2, _, .four _ (by omega) below⟩

def begunTwo (byte : UInt8) : Begun := ⟨1, 0x80, 0xBF, byte.toNat - 0xC0, byte, 1⟩

def begunThree (byte : UInt8) : Begun :=
  ⟨2, if byte.toNat = 0xE0 then 0xA0 else 0x80, if byte.toNat = 0xED then 0x9F else 0xBF, byte.toNat - 0xE0, byte, 1⟩

def begunFour (byte : UInt8) : Begun :=
  ⟨3, if byte.toNat = 0xF0 then 0x90 else 0x80, if byte.toNat = 0xF4 then 0x8F else 0xBF, byte.toNat - 0xF0, byte, 1⟩

section Begin
variable (byte : UInt8)

theorem begin_two (above : 0xC2 ≤ byte.toNat) (below : byte.toNat < 0xE0) : begin? byte = some (begunTwo byte) := by
  simp only [begin?, UInt8.lt_iff_toNat_lt, UInt8.reduceToNat]
  rw [if_neg (by omega), if_pos below]
  rfl

theorem begin_three (above : 0xE0 ≤ byte.toNat) (below : byte.toNat < 0xF0) : begin? byte = some (begunThree byte) := by
  simp only [begin?, UInt8.lt_iff_toNat_lt, ← UInt8.toNat_inj, UInt8.reduceToNat, begunThree]
  rw [if_neg (by omega), if_neg (by omega)]
  by_cases lowest : byte.toNat = 0xE0
  · rw [if_pos lowest, lowest]
    rfl
  · rw [if_neg lowest, if_neg lowest]
    by_cases surrogate : byte.toNat = 0xED
    · rw [if_pos surrogate, surrogate]
      rfl
    · rw [if_neg surrogate, if_neg surrogate, if_pos below]

theorem begin_four (above : 0xF0 ≤ byte.toNat) (below : byte.toNat ≤ 0xF4) : begin? byte = some (begunFour byte) := by
  simp only [begin?, UInt8.lt_iff_toNat_lt, ← UInt8.toNat_inj, UInt8.reduceToNat, begunFour]
  rw [if_neg (by omega), if_neg (by omega), if_neg (by omega), if_neg (by omega), if_neg (by omega)]
  by_cases lowest : byte.toNat = 0xF0
  · rw [if_pos lowest, lowest]
    rfl
  · rw [if_neg lowest, if_neg lowest]
    by_cases highest : byte.toNat = 0xF4
    · rw [if_neg (by omega), if_pos highest, highest]
      rfl
    · rw [if_pos (by omega), if_neg highest]

theorem begin_none (outside : byte.toNat < 0xC2 ∨ 0xF4 < byte.toNat) : begin? byte = none := by
  simp only [begin?, UInt8.lt_iff_toNat_lt, ← UInt8.toNat_inj, UInt8.reduceToNat]
  rcases outside with below | above
  · rw [if_pos below]
  · rw [if_neg (by omega), if_neg (by omega), if_neg (by omega), if_neg (by omega), if_neg (by omega), if_neg (by omega),
      if_neg (by omega), if_neg (by omega)]

theorem begin_cases (begun : Begun) (begins : begin? byte = some begun) :
    begun = begunTwo byte ∧ 0xC2 ≤ byte.toNat ∧ byte.toNat < 0xE0 ∨
      begun = begunThree byte ∧ 0xE0 ≤ byte.toNat ∧ byte.toNat < 0xF0 ∨
        begun = begunFour byte ∧ 0xF0 ≤ byte.toNat ∧ byte.toNat ≤ 0xF4 := by
  by_cases outside : byte.toNat < 0xC2 ∨ 0xF4 < byte.toNat
  · rw [begin_none byte outside] at begins
    cases begins
  · by_cases two : byte.toNat < 0xE0
    · rw [begin_two byte (by omega) two] at begins
      exact .inl ⟨(Option.some.inj begins).symm, by omega, two⟩
    · by_cases three : byte.toNat < 0xF0
      · rw [begin_three byte (by omega) three] at begins
        exact .inr (.inl ⟨(Option.some.inj begins).symm, by omega, three⟩)
      · rw [begin_four byte (by omega) (by omega)] at begins
        exact .inr (.inr ⟨(Option.some.inj begins).symm, by omega, by omega⟩)

theorem begin_bounds (begun : Begun) (begins : begin? byte = some begun) :
    ∃ count, begun.owed = count + 1 ∧ 0x80 ≤ begun.low.toNat ∧ begun.high.toNat ≤ 0xBF := by
  rcases begin_cases byte begun begins with ⟨rfl, _⟩ | ⟨rfl, _⟩ | ⟨rfl, _⟩
  · exact ⟨0, rfl, Nat.le_refl 0x80, Nat.le_refl 0xBF⟩
  · refine ⟨1, rfl, ?_, ?_⟩
    · dsimp only [begunThree]
      split <;> decide
    · dsimp only [begunThree]
      split <;> decide
  · refine ⟨2, rfl, ?_, ?_⟩
    · dsimp only [begunFour]
      split <;> decide
    · dsimp only [begunFour]
      split <;> decide

theorem begin_iff (count code : Nat) :
    (∃ begun, begin? byte = some begun ∧ begun.Completes count code) ↔ Encodes (count + 1) code byte := by
  constructor
  · rintro ⟨begun, begins, owed, bits, low, high⟩
    rcases begin_cases byte begun begins with ⟨rfl, above, below⟩ | ⟨rfl, above, below⟩ | ⟨rfl, above, below⟩
    · obtain rfl : count = 0 := (Nat.succ.inj owed).symm
      dsimp only [begunTwo, UInt8.reduceToNat] at bits low high
      rw [(byte_of_nat_iff byte (code / 64 ^ 1 + 0xC0) (by omega)).mpr (by omega)]
      exact .two code (by omega) (by omega)
    · obtain rfl : count = 1 := (Nat.succ.inj owed).symm
      dsimp only [begunThree] at bits low high
      have least : 0x800 ≤ code := by
        split at low <;> dsimp only [UInt8.reduceToNat] at low <;> omega
      have scalar : IsScalar code := by
        unfold IsScalar
        split at high <;> dsimp only [UInt8.reduceToNat] at high <;> omega
      rw [(byte_of_nat_iff byte (code / 64 ^ 2 + 0xE0) (by omega)).mpr (by omega)]
      exact .three code least (by omega) scalar
    · obtain rfl : count = 2 := (Nat.succ.inj owed).symm
      dsimp only [begunFour] at bits low high
      have least : 0x10000 ≤ code := by
        split at low <;> dsimp only [UInt8.reduceToNat] at low <;> omega
      have most : code < 0x110000 := by
        split at high <;> dsimp only [UInt8.reduceToNat] at high <;> omega
      rw [(byte_of_nat_iff byte (code / 64 ^ 3 + 0xF0) (by omega)).mpr (by omega)]
      exact .four code least most
  · intro encodes
    generalize size : count + 1 = owed at encodes
    cases encodes with
    | two code above below =>
        have first : (UInt8.ofNat (code / 64 ^ 1 + 0xC0)).toNat = code / 64 ^ 1 + 0xC0 :=
          (byte_of_nat_iff _ _ (by omega)).mp rfl
        obtain rfl : count = 0 := by omega
        refine ⟨_, begin_two _ (by omega) (by omega), rfl, ?_, ?_, ?_⟩
        · dsimp only [begunTwo]
          omega
        · dsimp only [begunTwo, UInt8.reduceToNat]
          omega
        · dsimp only [begunTwo, UInt8.reduceToNat]
          omega
    | three code above below scalar =>
        have first : (UInt8.ofNat (code / 64 ^ 2 + 0xE0)).toNat = code / 64 ^ 2 + 0xE0 :=
          (byte_of_nat_iff _ _ (by omega)).mp rfl
        obtain rfl : count = 1 := by omega
        refine ⟨_, begin_three _ (by omega) (by omega), rfl, ?_, ?_, ?_⟩
        · dsimp only [begunThree]
          omega
        · dsimp only [begunThree]
          split <;> dsimp only [UInt8.reduceToNat] <;> omega
        · dsimp only [begunThree]
          unfold IsScalar at scalar
          split <;> dsimp only [UInt8.reduceToNat] <;> omega
    | four code above below =>
        have first : (UInt8.ofNat (code / 64 ^ 3 + 0xF0)).toNat = code / 64 ^ 3 + 0xF0 :=
          (byte_of_nat_iff _ _ (by omega)).mp rfl
        obtain rfl : count = 2 := by omega
        refine ⟨_, begin_four _ (by omega) (by omega), rfl, ?_, ?_, ?_⟩
        · dsimp only [begunFour]
          omega
        · dsimp only [begunFour]
          split <;> dsimp only [UInt8.reduceToNat] <;> omega
        · dsimp only [begunFour]
          split <;> dsimp only [UInt8.reduceToNat] <;> omega

end Begin

theorem tail_bytes_length (count code : Nat) : (tailBytes count code).length = count := by
  induction count with
  | zero => rfl
  | succ count ih => rw [tailBytes, List.length_cons, ih]

theorem encodes_above (count code : Nat) (byte : UInt8) (encodes : Encodes count code byte) :
    0x80 ≤ code ∧ 0x80 ≤ byte.toNat := by
  cases encodes with
  | two code above below =>
      rw [(byte_of_nat_iff (UInt8.ofNat _) _ (by omega)).mp rfl]
      omega
  | three code above below scalar =>
      rw [(byte_of_nat_iff (UInt8.ofNat _) _ (by omega)).mp rfl]
      omega
  | four code above below =>
      rw [(byte_of_nat_iff (UInt8.ofNat _) _ (by omega)).mp rfl]
      omega

theorem encode_char_iff (c : Char) (byte : UInt8) (tail : List UInt8) : String.utf8EncodeChar c = byte :: tail ↔
    byte.toNat < 0x80 ∧ c.toNat = byte.toNat ∧ tail = [] ∨
      ∃ count, Encodes (count + 1) c.toNat byte ∧ tail = tailBytes (count + 1) c.toNat := by
  constructor
  · intro encoded
    rcases char_encodes c with ⟨below, one⟩ | ⟨count, first, encodes⟩
    · obtain ⟨same, last⟩ := List.cons.inj (one.symm.trans encoded)
      have code := (byte_of_nat_iff byte c.toNat (by omega)).mp same.symm
      exact .inl ⟨by omega, code.symm, last.symm⟩
    · have several := (encodes_char _ _ first encodes).2
      rw [Char.ofNat_toNat] at several
      obtain ⟨rfl, rfl⟩ := List.cons.inj (several.symm.trans encoded)
      exact .inr ⟨count, encodes, rfl⟩
  · rintro (⟨below, code, rfl⟩ | ⟨count, encodes, rfl⟩)
    · rcases char_encodes c with ⟨_, one⟩ | ⟨count, first, encodes⟩
      · rw [one, ← (byte_of_nat_iff byte c.toNat (by omega)).mpr code.symm]
      · have above := (encodes_above _ _ first encodes).1
        omega
    · have several := (encodes_char _ _ byte encodes).2
      rwa [Char.ofNat_toNat] at several

theorem decode_char (done : List Char) (position : Nat) (byte : UInt8) (bytes : List UInt8) (text : List Char) :
    decodeFrom done position none (byte :: bytes) = .ok text ↔
      ∃ c tail rest, String.utf8EncodeChar c = byte :: tail ∧ bytes = tail ++ rest ∧
        decodeFrom (c :: done) (position + (tail.length + 1)) none rest = .ok text := by
  simp only [encode_char_iff]
  rw [decodeFrom]
  simp only [UInt8.lt_iff_toNat_lt, UInt8.reduceToNat]
  split
  · rename_i below
    constructor
    · intro decoded
      have code : (Char.ofNat byte.toNat).toNat = byte.toNat := scalar_code _ (.inl (by omega))
      exact ⟨Char.ofNat byte.toNat, [], bytes, .inl ⟨below, code, rfl⟩, rfl, decoded⟩
    · rintro ⟨c, tail, rest, ⟨_, code, rfl⟩ | ⟨count, encodes, rfl⟩, rfl, decoded⟩
      · rw [← code, Char.ofNat_toNat]
        exact decoded
      · have above := (encodes_above _ _ byte encodes).2
        omega
  · rename_i above
    cases begins : begin? byte with
    | none =>
        refine iff_of_false nofun ?_
        rintro ⟨c, tail, rest, ⟨below, _⟩ | ⟨count, encodes, _⟩, _⟩
        · exact above below
        · obtain ⟨begun, known, _⟩ := (begin_iff byte count c.toNat).mpr encodes
          cases begins.symm.trans known
    | some begun =>
        obtain ⟨count, owed, low, high⟩ := begin_bounds byte begun begins
        have later : position + 1 + (count + 1) = position + (count + 1 + 1) := by omega
        dsimp only
        rw [decode_tail done count (position + 1) begun owed low high, later]
        constructor
        · rintro ⟨code, rest, rfl, completes, decoded⟩
          have encodes := (begin_iff byte count code).mp ⟨begun, begins, completes⟩
          have same := scalar_code code (encodes_char _ _ byte encodes).1
          refine ⟨Char.ofNat code, tailBytes (count + 1) code, rest, .inr ⟨count, ?_, ?_⟩, rfl, ?_⟩
          · rwa [same]
          · rw [same]
          · rwa [tail_bytes_length]
        · rintro ⟨c, tail, rest, ⟨below, _⟩ | ⟨other, encodes, rfl⟩, rfl, decoded⟩
          · exact absurd below above
          · obtain ⟨begun', known, completes⟩ := (begin_iff byte other c.toNat).mpr encodes
            cases begins.symm.trans known
            obtain rfl : count = other := Nat.succ.inj (owed.symm.trans completes.owed)
            rw [tail_bytes_length] at decoded
            refine ⟨c.toNat, rest, rfl, completes, ?_⟩
            rwa [Char.ofNat_toNat]

theorem encode_char_some (c : Char) : ∃ byte tail, String.utf8EncodeChar c = byte :: tail := by
  rcases char_encodes c with ⟨_, one⟩ | ⟨count, byte, encodes⟩
  · exact ⟨_, _, one⟩
  · have several := (encodes_char _ _ byte encodes).2
    rw [Char.ofNat_toNat] at several
    exact ⟨_, _, several⟩

theorem decode_from_iff (bytes : List UInt8) (done : List Char) (position : Nat) (text : List Char) :
    decodeFrom done position none bytes = .ok text ↔
      ∃ read, text = done.reverse ++ read ∧ bytes = read.flatMap String.utf8EncodeChar := by
  -- A character takes at least one byte, so fewer bytes are left behind each.
  induction size : bytes.length using Nat.strongRecOn generalizing bytes done position with
  | ind length ih =>
      cases bytes with
      | nil =>
          constructor
          · rintro ⟨⟩
            exact ⟨[], by simp, rfl⟩
          · rintro ⟨read, rfl, none⟩
            cases read with
            | nil => simp [decodeFrom]
            | cons c read =>
                obtain ⟨byte, tail, encoded⟩ := encode_char_some c
                rw [List.flatMap_cons, encoded] at none
                cases none
      | cons byte bytes =>
          rw [decode_char]
          constructor
          · rintro ⟨c, tail, rest, encoded, rfl, decoded⟩
            have shorter : rest.length < length := by
              rw [← size, List.length_cons, List.length_append]
              omega
            obtain ⟨read, rfl, rfl⟩ := (ih rest.length shorter rest _ _ rfl).mp decoded
            refine ⟨c :: read, by simp, ?_⟩
            rw [List.flatMap_cons, encoded, List.cons_append]
          · rintro ⟨read, rfl, whole⟩
            cases read with
            | nil => cases whole
            | cons c read =>
                obtain ⟨first, tail, encoded⟩ := encode_char_some c
                rw [List.flatMap_cons, encoded, List.cons_append] at whole
                obtain ⟨rfl, rfl⟩ := List.cons.inj whole
                have shorter : (read.flatMap String.utf8EncodeChar).length < length := by
                  rw [← size, List.length_cons, List.length_append]
                  omega
                refine ⟨c, tail, _, encoded, rfl, (ih _ shorter _ _ _ rfl).mpr ⟨read, ?_, rfl⟩⟩
                simp

theorem decode_iff (bytes : List UInt8) (text : String) : decode bytes = .ok text ↔ bytes = encode text := by
  have whole : decodeFrom [] 0 none bytes = .ok text.toList ↔ bytes = encode text := by
    rw [decode_from_iff]
    constructor
    · rintro ⟨read, same, rfl⟩
      rw [encode, same]
      rfl
    · exact fun same => ⟨text.toList, rfl, same⟩
  rw [← whole, decode]
  cases decodeFrom [] 0 none bytes with
  | error fault => exact iff_of_false nofun nofun
  | ok chars =>
      simp only [Except.map, Except.ok.injEq]
      constructor
      · rintro rfl
        rw [String.toList_ofList]
      · rintro rfl
        rw [String.ofList_toList]

theorem bytes_from_iff (points : List Nat) (bounded : ∀ code ∈ points, code < 0x110000) (position : Nat)
    (written : List UInt8) : bytesFrom position points = .ok written ↔
      ∃ chars : List Char, chars.map Char.toNat = points ∧ written = chars.flatMap String.utf8EncodeChar := by
  induction points generalizing position written with
  | nil => simp [bytesFrom, eq_comm]
  | cons code rest ih =>
      obtain ⟨point, others⟩ := List.forall_mem_cons.mp bounded
      rw [bytesFrom]
      cases found : charOf? code with
      | none =>
          refine iff_of_false nofun ?_
          rintro ⟨chars, same, _⟩
          obtain ⟨c, later, rfl, first, _⟩ := List.map_eq_cons_iff.mp same
          rw [← first, char_of_code] at found
          cases found
      | some c =>
          have code_eq : c.toNat = code := char_of_some code c point found
          dsimp only
          constructor
          · intro mapped
            cases more : bytesFrom (position + 1) rest with
            | error fault =>
                rw [more] at mapped
                cases mapped
            | ok bytes =>
                rw [more] at mapped
                obtain ⟨chars, same, rfl⟩ := (ih others (position + 1) bytes).mp more
                refine ⟨c :: chars, by rw [List.map_cons, code_eq, same], ?_⟩
                rw [List.flatMap_cons]
                exact (Except.ok.inj mapped).symm
          · rintro ⟨chars, same, rfl⟩
            obtain ⟨other, later, rfl, first, remaining⟩ := List.map_eq_cons_iff.mp same
            have equal : other = c := Char.toNat_inj.mp (first.trans code_eq.symm)
            rw [(ih others (position + 1) (later.flatMap String.utf8EncodeChar)).mpr ⟨later, remaining, rfl⟩, equal]
            rfl

-- The characters of one text are the codes of another, which then holds no half of a pair.
def Spells (plain text : String) : Prop := plain.toList.map Char.toNat = codes text.toList

def Whole (text : String) : Prop := ∀ code ∈ codes text.toList, isHalf code = false

theorem spells_itself (text : String) (unmarked : standInMark ∉ text.toList) : Spells text text :=
  (codes_plain text.toList unmarked).symm

theorem spelled_whole (plain text : String) (spells : Spells plain text) : Whole text := by
  intro code inside
  rw [← spells, List.mem_map] at inside
  obtain ⟨c, _, rfl⟩ := inside
  exact char_whole c

theorem bytes_iff (text : String) (written : List UInt8) :
    bytes text = .ok written ↔ ∃ plain, Spells plain text ∧ written = encode plain := by
  rw [bytes, bytes_from_iff _ (codes_bounded text.toList)]
  constructor
  · rintro ⟨chars, same, rfl⟩
    refine ⟨String.ofList chars, ?_, ?_⟩
    · rw [Spells, String.toList_ofList, same]
    · rw [encode, String.toList_ofList]
  · rintro ⟨plain, same, rfl⟩
    exact ⟨plain.toList, same, rfl⟩

theorem bytes_from_fail_iff (points : List Nat) (position : Nat) :
    (∃ fault, bytesFrom position points = .error fault) ↔ ∃ code ∈ points, isHalf code = true := by
  induction points generalizing position with
  | nil => exact iff_of_false nofun nofun
  | cons code rest ih =>
      simp only [List.mem_cons, exists_eq_or_imp]
      rw [← ih (position + 1), ← char_of_none_iff, bytesFrom]
      cases charOf? code with
      | none => simp
      | some c =>
          cases bytesFrom (position + 1) rest with
          | error fault => exact iff_of_true ⟨fault, rfl⟩ (.inr ⟨fault, rfl⟩)
          | ok bytes =>
              refine iff_of_false nofun ?_
              rintro (none | ⟨fault, failed⟩)
              · cases none
              · cases failed

theorem bytes_fail_iff (text : String) : (∃ fault, bytes text = .error fault) ↔ ¬ Whole text := by
  rw [bytes, bytes_from_fail_iff]
  simp [Whole]

end SchemaRecovery.Text.Utf8
