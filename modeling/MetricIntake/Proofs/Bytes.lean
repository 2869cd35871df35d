import MetricIntake.Bytes

/-!
Contract: numbers survive the bytes that are written for them.

Owns:
- reading back natural numbers and two's complement integers of a width that holds them;
- writing a natural number that was read, which gives the bytes it was read from;
- the least width of an integer, which holds it and is no greater than any other that does;
- splitting off a front of known length.

Does not own: which width stands where.
-/

set_option autoImplicit false

namespace MetricIntake.Bytes

theorem capacity_pos (width : Nat) : 0 < capacity width :=
  Nat.pow_pos (by decide)

theorem capacity_eq_two_pow (width : Nat) : capacity width = Nat.pow 2 (8 * width) :=
  (Nat.pow_mul 2 8 width).symm

/-! ### Natural numbers -/

theorem ofLittleEndian_littleEndian {width number : Nat} (fits : number < capacity width) :
    ofLittleEndian (littleEndian width number) = number := by
  induction width generalizing number with
  | zero =>
      have zero : number < 1 := fits
      show 0 = number
      omega
  | succ width inductionHypothesis =>
      have bound : number < capacity width * 256 := fits
      have quotient : number / 256 < capacity width :=
        Nat.div_lt_of_lt_mul (by rwa [Nat.mul_comm])
      rw [littleEndian, ofLittleEndian, inductionHypothesis quotient, UInt8.toNat_ofNat']
      exact Nat.mod_add_div number 256

theorem ofBigEndian_bigEndian {width number : Nat} (fits : number < capacity width) :
    ofBigEndian (bigEndian width number) = number := by
  rw [ofBigEndian, bigEndian, List.reverse_reverse, ofLittleEndian_littleEndian fits]

theorem littleEndian_ofLittleEndian (bytes : Bytes) :
    littleEndian bytes.length (ofLittleEndian bytes) = bytes := by
  induction bytes with
  | nil => rfl
  | cons byte rest inductionHypothesis =>
      have bound := byte.toNat_lt
      have digit : UInt8.ofNat (byte.toNat + 256 * ofLittleEndian rest) = byte := by
        apply UInt8.toNat_inj.mp
        rw [UInt8.toNat_ofNat']
        omega
      have others : (byte.toNat + 256 * ofLittleEndian rest) / 256 = ofLittleEndian rest := by
        omega
      rw [List.length_cons, ofLittleEndian, littleEndian, digit, others, inductionHypothesis]

theorem bigEndian_ofBigEndian (bytes : Bytes) :
    bigEndian bytes.length (ofBigEndian bytes) = bytes := by
  have reversed := littleEndian_ofLittleEndian bytes.reverse
  rw [List.length_reverse] at reversed
  rw [bigEndian, ofBigEndian, reversed, List.reverse_reverse]

theorem ofLittleEndian_lt (bytes : Bytes) : ofLittleEndian bytes < capacity bytes.length := by
  induction bytes with
  | nil => exact capacity_pos 0
  | cons byte rest inductionHypothesis =>
      have bound := byte.toNat_lt
      have wider : capacity (rest.length + 1) = capacity rest.length * 256 := rfl
      rw [ofLittleEndian, List.length_cons, wider]
      omega

theorem ofBigEndian_lt (bytes : Bytes) : ofBigEndian bytes < capacity bytes.length := by
  have bounded := ofLittleEndian_lt bytes.reverse
  rwa [List.length_reverse] at bounded

/-! ### Integers -/

def Fits (width : Nat) (number : Int) : Prop :=
  -(capacity width : Int) ≤ 2 * number ∧ 2 * number < capacity width

theorem twosComplement_length (width : Nat) (number : Int) :
    (twosComplement width number).length = width :=
  littleEndian_length width _

theorem ofTwosComplement_twosComplement {width : Nat} {number : Int} (fits : Fits width number) :
    ofTwosComplement (twosComplement width number) = number := by
  obtain ⟨lower, upper⟩ := fits
  have positive := capacity_pos width
  rw [ofTwosComplement, twosComplement_length]
  by_cases negative : number < 0
  · have wrapped : number % capacity width = number + capacity width := by
      rw [← Int.add_emod_right, Int.emod_eq_of_lt (by omega) (by omega)]
    rw [twosComplement, wrapped, ofLittleEndian_littleEndian (by omega), if_neg (by omega)]
    omega
  · have kept : number % capacity width = number := Int.emod_eq_of_lt (by omega) (by omega)
    rw [twosComplement, kept, ofLittleEndian_littleEndian (by omega), if_pos (by omega)]
    omega

theorem lt_two_pow_bitLength (number : Nat) : number < Nat.pow 2 (bitLength number) := by
  unfold bitLength
  by_cases zero : number = 0
  · rw [if_pos zero, zero]
    decide
  · rw [if_neg zero]
    exact Nat.lt_log2_self

theorem two_pow_bitLength_le (magnitude : Nat) :
    2 * Nat.pow 2 (bitLength magnitude) ≤ capacity (bitLength magnitude / 8 + 1) := by
  have doubled : 2 * Nat.pow 2 (bitLength magnitude) = Nat.pow 2 (bitLength magnitude + 1) := by
    rw [Nat.mul_comm]
    rfl
  rw [capacity_eq_two_pow, doubled]
  exact Nat.pow_le_pow_right (by decide) (by omega)

theorem fits_twosComplementWidth (number : Int) : Fits (twosComplementWidth number) number := by
  cases number with
  | ofNat magnitude =>
      have held := two_pow_bitLength_le magnitude
      have below := lt_two_pow_bitLength magnitude
      simp only [Fits, twosComplementWidth, Int.ofNat_eq_natCast]
      omega
  | negSucc magnitude =>
      have held := two_pow_bitLength_le magnitude
      have below := lt_two_pow_bitLength magnitude
      simp only [Fits, twosComplementWidth]
      omega

theorem bitLength_le {number bits : Nat} (below : number < Nat.pow 2 bits) :
    bitLength number ≤ bits := by
  unfold bitLength
  by_cases zero : number = 0
  · rw [if_pos zero]
    exact Nat.zero_le bits
  · rw [if_neg zero]
    exact (Nat.log2_lt zero).mpr below

/-- The least width is no greater than any other that holds the integer. -/
theorem twosComplementWidth_le {width : Nat} {number : Int} (fits : Fits width number)
    (positive : 0 < width) : twosComplementWidth number ≤ width := by
  have held (magnitude : Nat) (below : 2 * magnitude < capacity width) :
      bitLength magnitude / 8 + 1 ≤ width := by
    have halved : capacity width = Nat.pow 2 (8 * width - 1) * 2 := by
      rw [capacity_eq_two_pow]
      exact congrArg (Nat.pow 2) (by omega : 8 * width = 8 * width - 1 + 1)
    have bits : bitLength magnitude ≤ 8 * width - 1 := bitLength_le (by omega)
    omega
  obtain ⟨lower, upper⟩ := fits
  cases number with
  | ofNat magnitude => exact held magnitude (by simp only [Int.ofNat_eq_natCast] at upper; omega)
  | negSucc magnitude => exact held magnitude (by omega)

/-! ### Fronts -/

theorem split?_append (front rest : Bytes) :
    split? front.length (front ++ rest) = some (front, rest) := by
  simp [split?, List.splitAt_eq]

theorem split?_short {count : Nat} {bytes : Bytes} (few : bytes.length < count) :
    split? count bytes = none := by
  simp only [split?, List.splitAt_eq, List.length_take]
  rw [if_neg (by omega)]

end MetricIntake.Bytes
