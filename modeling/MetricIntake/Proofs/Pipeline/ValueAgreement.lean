import MetricIntake.Proofs.Number.FixedPoint
import MetricIntake.Proofs.Observation
import MetricIntake.Proofs.Packet.Grammar
import MetricIntake.Proofs.Pipeline.Judgement

/-!
Contract: the value of an item and the number that its line is read as.

Owns:
- the number that the text of a floating-point value is read as, also where it is no decimal;
- the number that the text of an integer is read as;
- that no line is refused for a value that was a number.

Does not own: how far six places are from a number.
-/

set_option autoImplicit false

namespace MetricIntake

namespace Observation

open Binary64

/-! ### Floating-point values -/

/-- How the number that a text is read as goes with the number that was written: one constructor for
each class of numbers. -/
inductive Agrees : Binary64 → Binary64 → Prop where
  | notANumber {number found : Binary64} (written : number.isNaN = true)
      (read : found.isNaN = true) : Agrees number found
  | infinite {number : Binary64} (written : number.isInfinite = true) : Agrees number number
  | finite {number found : Binary64} (written : number.isFinite = true)
      (read : found.isFinite = true) (sign : found.isNegative = number.isNegative)
      (near : |found.toRat - number.toRat| < 1 / 10 ^ 6)
      (exact : 2 ^ 33 ≤ |number.toRat| → found = number) : Agrees number found

theorem floatText_of_isNaN {number : Binary64} (notANumber : number.isNaN = true) (places : Nat) :
    floatText places number = "NaN" :=
  if_pos notANumber

theorem floatText_of_isInfinite {number : Binary64} (infinite : number.isInfinite = true)
    (places : Nat) :
    floatText places number = if number.isNegative then "-Inf" else "+Inf" := by
  have isNumber : ¬number.isNaN = true := by
    rw [Bool.not_eq_true, isNaN_eq_false_iff]
    exact (number.isInfinite_iff.mp infinite).le
  rw [floatText, if_neg isNumber, if_pos infinite]

theorem floatText_of_isFinite {number : Binary64} (finite : number.isFinite = true)
    (places : Nat) : floatText places number = FixedPoint.text places number := by
  rw [isFinite, Bool.and_eq_true, Bool.not_eq_true', Bool.not_eq_true'] at finite
  rw [floatText, if_neg (by simp [finite.1]), if_neg (by simp [finite.2])]

theorem eq_infinity_of_isInfinite {number : Binary64} (infinite : number.isInfinite = true) :
    number = Binary64.infinity number.isNegative := by
  apply eq_of_code_eq
  · exact (isNegative_ofCode _ infinityCode_lt_signPlace).symm
  · rw [number.isInfinite_iff.mp infinite, magnitudeCode_infinity]

/-- The text of a finite number is read as the number nearest to its decimal. -/
theorem exists_readsBack (number : Binary64) :
    ∃ found, Literal.binary64? (Utf8.encode (FixedPoint.text valuePlaces number)) = some found ∧
      FixedPoint.ReadsBack number found := by
  refine ⟨_, FixedPoint.binary64?_text valuePlaces number, isNegative_ofDecimal _ _ _, ?_⟩
  have nearest := isNearest_ofDecimal number.isNegative (FixedPoint.units valuePlaces number)
    (-(valuePlaces : Int))
  rw [zpow_neg, zpow_natCast, ← div_eq_mul_inv] at nearest
  exact nearest

/-- **The text of a floating-point value is read as a number with the same text.** -/
theorem exists_agrees (number : Binary64) :
    ∃ found, Literal.binary64? (Utf8.encode (floatText valuePlaces number)) = some found ∧
      floatText valuePlaces found = floatText valuePlaces number ∧ Agrees number found := by
  by_cases notANumber : number.isNaN = true
  · have isNaN : nan.isNaN = true := isNaN_quietNaN false
    refine ⟨nan, ?_, ?_, .notANumber notANumber isNaN⟩
    · rw [floatText_of_isNaN notANumber]
      rfl
    · rw [floatText_of_isNaN notANumber, floatText_of_isNaN isNaN]
  by_cases infinite : number.isInfinite = true
  · refine ⟨number, ?_, rfl, .infinite infinite⟩
    have named := eq_infinity_of_isInfinite infinite
    rw [floatText_of_isInfinite infinite]
    generalize number.isNegative = negative at named ⊢
    subst named
    cases negative <;> rfl
  · have finite : number.isFinite = true := by simp [isFinite, notANumber, infinite]
    have isNumber := number.isNaN_eq_false_of_isFinite finite
    obtain ⟨found, read, reads⟩ := exists_readsBack number
    have foundFinite := reads.isFinite finite
    refine ⟨found, ?_, ?_, .finite finite foundFinite reads.sign ?_ ?_⟩
    · rw [floatText_of_isFinite finite, read]
    · rw [floatText_of_isFinite finite, floatText_of_isFinite foundFinite, FixedPoint.text,
        FixedPoint.text, reads.sign, valuePlaces, reads.units_eq isNumber]
    · rw [toRat, toRat, reads.sign, abs_signed_sub_signed]
      exact reads.magnitude_near isNumber
    · intro large
      rw [toRat, abs_signed _ number.magnitude_nonneg] at large
      apply reads.eq_of_coarse isNumber
      rw [coarse]
      exact_mod_cast large

/-! ### Integers -/

theorem signed_natAbs (number : Int) :
    signed (decide (number < 0)) (number.natAbs : ℚ) = number := by
  have absolute : ((number.natAbs : ℕ) : ℚ) = |(number : ℚ)| := by
    rw [Nat.cast_natAbs, Int.cast_abs]
  rw [absolute, signed]
  by_cases negative : number < 0
  · have below : (number : ℚ) < 0 := by exact_mod_cast negative
    rw [if_pos (decide_eq_true negative), abs_of_neg below, neg_neg]
  · have above : (0 : ℚ) ≤ number := by exact_mod_cast not_lt.mp negative
    rw [if_neg (by simpa using negative), abs_of_nonneg above]

/-- **The text of an integer of 64 bits is read as the number nearest to it.** -/
theorem exists_nearest {number : Int} (small : number.natAbs < 2 ^ 65) :
    ∃ found, Literal.binary64? (Utf8.encode (Decimal.intText number)) = some found ∧
      found.isFinite = true ∧ IsNearest number found := by
  have nearest := isNearest_ofDecimal (decide (number < 0)) number.natAbs 0
  have sign := isNegative_ofDecimal (decide (number < 0)) number.natAbs 0
  rw [zpow_zero, mul_one] at nearest
  refine ⟨ofDecimal (decide (number < 0)) number.natAbs 0, ?_, ?_, ?_⟩
  · rw [Decimal.encode_intText, Literal.binary64?_spelling (Decimal.digits_lt_ten _)
      (Decimal.digits_ne_nil _) _ none (by simp)]
    simp [Decimal.ofDigits_digits]
  · apply nearest.isFinite_of_le sign
    calc (number.natAbs : ℚ) ≤ 2 ^ (65 : ℤ) := by exact_mod_cast small.le
      _ ≤ 2 ^ (1023 : ℤ) := zpow_le_zpow_right₀ (by norm_num) (by norm_num)
  · rwa [signed_natAbs] at nearest

theorem natAbs_toInt_lt (number : Int64) : number.toInt.natAbs < 2 ^ 65 := by
  have low := number.le_toInt
  have high := number.toInt_lt
  omega

theorem natAbs_toNat_lt (number : UInt64) : (number.toNat : Int).natAbs < 2 ^ 65 := by
  have high := number.toNat_lt
  omega

end Observation

/-- The values that are numbers of 64 bits. -/
def Value.isQuantity : Value → Bool
  | .signed _ | .unsigned _ | .float _ => true
  | _ => false

namespace Observation

/-- The text of such a value is read as a number. -/
theorem exists_read_of_isQuantity {value : Value} (quantity : value.isQuantity = true) {text : String}
    (spelled : valueText value = .ok text) :
    ∃ number, Literal.binary64? (Utf8.encode text) = some number := by
  cases value <;> simp only [Value.isQuantity, Bool.false_eq_true] at quantity
  case signed number =>
    obtain rfl := Except.ok.inj spelled
    obtain ⟨found, read, -⟩ := exists_nearest (natAbs_toInt_lt number)
    exact ⟨found, read⟩
  case unsigned number =>
    obtain rfl := Except.ok.inj spelled
    obtain ⟨found, read, -⟩ := exists_nearest (natAbs_toNat_lt number)
    exact ⟨found, read⟩
  case float number =>
    obtain rfl := Except.ok.inj spelled
    obtain ⟨found, read, -⟩ := exists_agrees number
    exact ⟨found, read⟩

/-- The path and the value are the first two fields, whatever the timestamp is. -/
theorem fields_line_of_quantity {observation : Observation} {value : Value} {number : Binary64}
    (somePath : observation.path ≠ "")
    (path : Packet.isUnbroken (Utf8.encode observation.path) = true)
    (quantity : value.isQuantity = true) (spelled : valueText value = .ok observation.value)
    (read : Literal.binary64? (Utf8.encode observation.value) = some number) :
    Packet.fields observation.line =
      Utf8.encode observation.path :: Utf8.encode observation.value ::
        Packet.fields (Utf8.encode observation.timestamp) := by
  have unbroken : Packet.isUnbroken (Utf8.encode observation.value) = true := by
    rw [← isUnbroken_valueText spelled]
    cases value <;> simp [Value.isQuantity] at quantity <;> rfl
  have someValue : Utf8.encode observation.value ≠ [] := by
    intro empty
    have unread : Literal.binary64? [] = none := rfl
    rw [empty, unread] at read
    cases read
  rw [fields_line, Packet.fields_of_isUnbroken path, Packet.fields_of_isUnbroken unbroken,
    if_neg someValue, if_neg (mt Utf8.encode_eq_nil_iff.mp somePath)]
  rfl

end Observation

namespace Pipeline

open Observation

/-- A line whose path and value are one field each is not refused for its value. -/
theorem judge_ne_value {path : String} {value : Value} (somePath : path ≠ "")
    (unbroken : Packet.isUnbroken (Utf8.encode path) = true) (quantity : value.isQuantity = true)
    (config : Config) (marks : Watermarks) (timestamp : Value) (line : Bytes) (key : String)
    (field : Bytes) :
    (judge config marks (Value.metricItem (.text path) timestamp value)).1 ≠
      .rejected line ⟨key, .value field⟩ := by
  intro refused
  have judged := judge_judged config marks (Value.metricItem (.text path) timestamp value)
  generalize judge config marks (Value.metricItem (.text path) timestamp value) = result
    at judged refused
  cases judged with
  | rejected observed unread =>
      cases refused
      obtain ⟨otherTimestamp, otherValue, same, -, spelled⟩ := ofItem_eq_ok_iff.mp observed
      cases same
      obtain ⟨number, read⟩ := exists_read_of_isQuantity quantity spelled
      have fields := fields_line_of_quantity somePath unbroken quantity spelled read
      cases Packet.fails_of_read unread with
      | value runs meets notNumber =>
          rw [Packet.fields_eq_iff.mpr runs] at fields
          have second := (List.cons.inj (List.cons.inj fields).2).1
          rw [second] at notNumber
          exact notNumber number (Literal.binary64?_eq_some_iff.mp read)
  | _ => cases refused

end Pipeline

/-- **The text of a value and the number that is passed on agree.** The text of a floating-point value
is read as a number that has the same text and agrees with the value; the text of an integer is read
as the number nearest to it; and no item with such a value and a path of one field is ever refused for
its value. -/
theorem Observation.valueText_agrees :
    (∀ number : Binary64, ∃ text found, valueText (.float number) = .ok text ∧
      Literal.binary64? (Utf8.encode text) = some found ∧ valueText (.float found) = .ok text ∧
      Agrees number found) ∧
    (∀ number : Int64, ∃ text found, valueText (.signed number) = .ok text ∧
      Literal.binary64? (Utf8.encode text) = some found ∧ found.isFinite = true ∧
      Binary64.IsNearest number.toInt found) ∧
    (∀ number : UInt64, ∃ text found, valueText (.unsigned number) = .ok text ∧
      Literal.binary64? (Utf8.encode text) = some found ∧ found.isFinite = true ∧
      Binary64.IsNearest number.toNat found) ∧
    ∀ (config : Config) (pipeline : Pipeline) (path : String) (timestamp value : Value),
      path ≠ "" → Packet.isUnbroken (Utf8.encode path) = true → value.isQuantity = true →
        ∀ line key field,
          (pipeline.processItem config (Value.metricItem (.text path) timestamp value)).1 ≠
            .rejected line ⟨key, .value field⟩ := by
  refine ⟨?_, ?_, ?_, ?_⟩
  · intro number
    obtain ⟨found, read, same, agrees⟩ := exists_agrees number
    exact ⟨_, found, rfl, read, congrArg Except.ok same, agrees⟩
  · intro number
    obtain ⟨found, read, finite, nearest⟩ := exists_nearest (natAbs_toInt_lt number)
    exact ⟨_, found, rfl, read, finite, nearest⟩
  · intro number
    obtain ⟨found, read, finite, nearest⟩ := exists_nearest (natAbs_toNat_lt number)
    rw [Int.cast_natCast] at nearest
    exact ⟨_, found, rfl, read, finite, nearest⟩
  · intro config pipeline path timestamp value somePath unbroken quantity line key field
    exact Pipeline.judge_ne_value somePath unbroken quantity config pipeline.watermarks timestamp
      line key field

/-- A tenth is written with six places and read as itself; its line is refused for the timestamp. -/
theorem Observation.valueText_agrees_tenth :
    let tenth : Binary64 := ⟨0x3FB999999999999A⟩
    let item := Value.metricItem (.text "a") (.text "x") (.float tenth)
    let outcome := (Pipeline.initial.processItem Config.default item).1
    let line := Utf8.encode "a 0.100000 x"
    valueText (.float tenth) = .ok "0.100000" ∧
      Literal.binary64? (Utf8.encode "0.100000") = some tenth ∧
      outcome = .rejected line ⟨"a", .timestamp (Utf8.encode "x")⟩ ∧
      outcome ≠ .rejected line ⟨"a", .value (Utf8.encode "0.100000")⟩ := by
  intro tenth item outcome line
  obtain ⟨-, -, -, accepted⟩ := valueText_agrees
  refine ⟨by decide +kernel, by decide +kernel, by decide +kernel, ?_⟩
  exact accepted Config.default .initial "a" (.text "x") (.float tenth) (by decide)
    (by decide +kernel) rfl line "a" (Utf8.encode "0.100000")

end MetricIntake
