import MetricIntake.Number.FixedPoint
import MetricIntake.Proofs.Text.Utf8

/-!
Contract: decimal digits, and the characters that numbers are written with.

Owns:
- the digits of a number are digits and spell the number;
- the bytes of a written number: digits, and around them a sign and a point at most.

Does not own: reading a number, nor how far a fixed-point text is from the number.
-/

set_option autoImplicit false

namespace MetricIntake.Decimal

/-! ### Digits -/

theorem digits_lt_ten (number : Nat) : ∀ digit ∈ digits number, digit < 10 := by
  fun_induction digits number with
  | case1 number small => simpa using small
  | case2 number large inductionHypothesis =>
      intro digit member
      simp only [List.mem_append, List.mem_singleton] at member
      rcases member with front | last
      · exact inductionHypothesis digit front
      · omega

theorem digits_ne_nil (number : Nat) : digits number ≠ [] := by
  rw [digits]
  split <;> simp

theorem lowestDigits_lt_ten (count number : Nat) :
    ∀ digit ∈ lowestDigits count number, digit < 10 := by
  induction count generalizing number with
  | zero => simp [lowestDigits]
  | succ count inductionHypothesis =>
      intro digit member
      simp only [lowestDigits, List.mem_append, List.mem_singleton] at member
      rcases member with front | last
      · exact inductionHypothesis _ digit front
      · omega

theorem ofDigits_append_singleton (front : List Nat) (last : Nat) :
    ofDigits (front ++ [last]) = 10 * ofDigits front + last := by
  simp [ofDigits]

theorem ofDigits_digits (number : Nat) : ofDigits (digits number) = number := by
  fun_induction digits number with
  | case1 number small => simp [ofDigits]
  | case2 number large inductionHypothesis =>
      rw [ofDigits_append_singleton, inductionHypothesis]
      omega

theorem power_succ (zeros : Nat) : power (zeros + 1) = power zeros * 10 := rfl

theorem lt_power_digitCount (number : Nat) : number < power (digitCount number) := by
  rw [digitCount]
  fun_induction digits number with
  | case1 number small => exact small
  | case2 number large inductionHypothesis =>
      rw [List.length_append, List.length_singleton, power_succ]
      omega

theorem power_digitCount_le {number : Nat} (positive : 0 < number) :
    power (digitCount number) ≤ 10 * number := by
  rw [digitCount]
  fun_induction digits number with
  | case1 number small =>
      rw [List.length_singleton, power_succ]
      have one : power 0 = 1 := rfl
      omega
  | case2 number large inductionHypothesis =>
      have shorter := inductionHypothesis (by omega)
      rw [List.length_append, List.length_singleton, power_succ]
      omega

/-! ### Characters and bytes -/

def digitByte (digit : Nat) : UInt8 := UInt8.ofNat (48 + digit)

theorem toNat_digitByte {digit : Nat} (small : digit < 10) : (digitByte digit).toNat = 48 + digit :=
  Utf8.toNat_ofNat_of_lt (by omega)

theorem toNat_digitChar {digit : Nat} (small : digit < 10) : (digitChar digit).toNat = 48 + digit := by
  have zero : '0'.toNat = 48 := rfl
  rw [digitChar, zero, Char.ofNat, dif_pos (Or.inl (by omega))]
  rfl

theorem encodeChars_digits {spelled : List Nat} (small : ∀ digit ∈ spelled, digit < 10) :
    Utf8.encodeChars (spelled.map digitChar) = spelled.map digitByte := by
  have ascii : ∀ character ∈ spelled.map digitChar, character.toNat < 0x80 := by
    intro character member
    obtain ⟨digit, digitMember, rfl⟩ := List.mem_map.mp member
    have digitSmall := small digit digitMember
    rw [toNat_digitChar digitSmall]
    omega
  rw [Utf8.encodeChars_of_ascii ascii, List.map_map]
  apply List.map_congr_left
  intro digit member
  simp only [Function.comp, toNat_digitChar (small digit member), digitByte]

theorem encode_natText (number : Nat) :
    Utf8.encode (natText number) = (digits number).map digitByte := by
  rw [Utf8.encode, natText, String.toList_ofList, natChars, encodeChars_digits (digits_lt_ten number)]

/-! ### Signs and points -/

/-- The bytes of a number with an optional minus sign before its digits, and a point and further
digits after them where it has places. -/
def spelling (negative : Bool) (whole : List Nat) (places : Option (List Nat)) : Bytes :=
  (if negative then [45] else []) ++ whole.map digitByte ++
    match places with
    | none => []
    | some digits => 46 :: digits.map digitByte

theorem spelling_ne_nil (negative : Bool) {whole : List Nat} (nonempty : whole ≠ [])
    (places : Option (List Nat)) : spelling negative whole places ≠ [] := by
  simp [spelling, nonempty]

theorem encode_intText (number : Int) :
    Utf8.encode (intText number) =
      spelling (decide (number < 0)) (digits number.natAbs) none := by
  cases number with
  | ofNat magnitude =>
      have sign : decide (Int.ofNat magnitude < 0) = false := by simp
      rw [intText, encode_natText, sign]
      simp [spelling]
  | negSucc magnitude =>
      have sign : decide (Int.negSucc magnitude < 0) = true := by simp
      rw [intText, Utf8.encode_append, encode_natText, sign]
      simp [spelling, Int.natAbs]
      rfl

theorem encode_fixedText (places : Nat) (number : Binary64) :
    Utf8.encode (FixedPoint.text places number) =
      spelling number.isNegative (digits (FixedPoint.units places number / power places))
        (if places = 0 then none
          else some (lowestDigits places (FixedPoint.units places number))) := by
  have sign : Utf8.encodeChars (if number.isNegative then ['-'] else []) =
      if number.isNegative then [45] else [] := by
    split <;> rfl
  rw [Utf8.encode, FixedPoint.text, String.toList_ofList, Utf8.encodeChars_append, sign,
    FixedPoint.unitChars, Utf8.encodeChars_append, natChars, encodeChars_digits (digits_lt_ten _)]
  by_cases none : places = 0
  · simp only [if_pos none, spelling]
    rw [List.append_assoc]
    rfl
  · have point (characters : List Char) :
        Utf8.encodeChars ('.' :: characters) = 46 :: Utf8.encodeChars characters := rfl
    simp only [if_neg none, spelling, point, encodeChars_digits (lowestDigits_lt_ten _ _),
      List.append_assoc]

end MetricIntake.Decimal
