import MetricIntake.Proofs.Number.Numeral
import MetricIntake.Proofs.Pipeline.ValueAgreement

/-!
Contract: the text of a floating-point number is its exact value, rounded once to a fixed number of
places.

Owns:
- decimals with a fixed number of places, digit by digit, and how they are written;
- which of them is nearest to an exact value, a tie going to the even last digit;
- that a finite number has one text, that of the nearest decimal behind its sign.

Does not own: the number that such a text is read as.

## One decimal, one text

Decimals with the same number of places are the multiples of one unit, so the nearest one is an
integer rounded in the sense of `Decimal.Rounds`, and there is one. Digits without superfluous zeros
are those of the number that they spell, so the nearest decimal has one spelling. Carries and
magnitudes of any length need no case of their own: the units are counted before they are cut into
digits.
-/

set_option autoImplicit false

namespace MetricIntake

/-! ### Decimals -/

namespace FixedPoint

open Binary64

/-- A decimal, digit by digit: the digits before the point and those after it. -/
structure Spelling where
  whole : List Nat
  places : List Nat
deriving DecidableEq, Repr

namespace Spelling

variable (spelling : Spelling)

def digits : List Nat := spelling.whole ++ spelling.places

/-- The unsigned decimal that the digits spell. -/
def value : ℚ := (Decimal.ofDigits spelling.digits : ℚ) / 10 ^ spelling.places.length

/-- The characters of the decimal behind a sign; a decimal without places has no point. -/
def characters (negative : Bool) : List Char :=
  (if negative then ['-'] else []) ++ spelling.whole.map Decimal.digitChar ++
    if spelling.places = [] then [] else '.' :: spelling.places.map Decimal.digitChar

/-- The decimal has just so many places, and no superfluous zeros before the point. -/
structure HasPlaces (count : Nat) : Prop where
  whole : Decimal.IsCanonical spelling.whole
  length : spelling.places.length = count
  small : ∀ digit ∈ spelling.places, digit < 10

/-- No multiple of the unit of the last place is nearer to a value, and where one is as near, the
last digit is even. -/
structure IsNearest (exact : ℚ) : Prop where
  least : ∀ multiple : ℤ,
    |spelling.value - exact| ≤ |(multiple : ℚ) / 10 ^ spelling.places.length - exact|
  even : ∀ multiple : ℤ, (multiple : ℚ) / 10 ^ spelling.places.length ≠ spelling.value →
    |(multiple : ℚ) / 10 ^ spelling.places.length - exact| = |spelling.value - exact| →
      ∃ last ∈ spelling.digits.getLast?, last % 2 = 0

variable {spelling}

theorem HasPlaces.digits_ne_nil {count : Nat} (hasPlaces : spelling.HasPlaces count) :
    spelling.digits ≠ [] :=
  List.append_ne_nil_of_left_ne_nil hasPlaces.whole.nonempty _

/-- The distance from a multiple of the unit, counted in units. -/
theorem abs_multiple_sub (places : Nat) (multiple exact : ℚ) :
    |multiple / 10 ^ places - exact| = |multiple - exact * 10 ^ places| / 10 ^ places := by
  have positive : (0 : ℚ) < 10 ^ places := by positivity
  rw [div_sub' positive.ne', abs_div, abs_of_pos positive, mul_comm]

/-- **The nearest decimal counts the units to which the value is rounded.** -/
theorem HasPlaces.isNearest_iff {count : Nat} (hasPlaces : spelling.HasPlaces count) (exact : ℚ) :
    spelling.IsNearest exact ↔
      Decimal.Rounds (exact * 10 ^ count) (Decimal.ofDigits spelling.digits) := by
  have positive : (0 : ℚ) < 10 ^ count := by positivity
  have nonempty := hasPlaces.digits_ne_nil
  have parity : (∃ last ∈ spelling.digits.getLast?, last % 2 = 0) ↔
      Decimal.ofDigits spelling.digits % 2 = 0 := by
    rw [List.getLast?_eq_some_getLast nonempty, Decimal.ofDigits_mod_two nonempty]
    simp
  have same (multiple : ℤ) :
      (multiple : ℚ) = (Decimal.ofDigits spelling.digits : ℚ) ↔
        multiple = Decimal.ofDigits spelling.digits := by
    exact_mod_cast Iff.rfl
  have units (multiple : ℚ) := abs_multiple_sub count multiple exact
  rw [Decimal.rounds_iff_nearest]
  constructor
  · rintro ⟨least, even⟩
    simp only [value, hasPlaces.length, units, div_le_div_iff_of_pos_right positive,
      div_left_inj' positive.ne', parity, ne_eq, same] at least even
    exact ⟨least, even⟩
  · rintro ⟨least, even⟩
    constructor
    · simpa only [value, hasPlaces.length, units, div_le_div_iff_of_pos_right positive] using least
    · simpa only [value, hasPlaces.length, units, div_left_inj' positive.ne', parity, ne_eq, same]
        using even

/-- Digits of which a given number stands behind the point are those of the count that they spell.
-/
theorem HasPlaces.eq_of_count {count : Nat} (hasPlaces : spelling.HasPlaces count) :
    spelling.whole = Decimal.digits (Decimal.ofDigits spelling.digits / Decimal.power count) ∧
      spelling.places = Decimal.lowestDigits count (Decimal.ofDigits spelling.digits) := by
  have scale : Decimal.power count = 10 ^ count := rfl
  have placesSmall := Decimal.ofDigits_lt hasPlaces.small
  rw [hasPlaces.length] at placesSmall
  constructor
  · have quotient : Decimal.ofDigits spelling.digits / 10 ^ count =
        Decimal.ofDigits spelling.whole := by
      rw [digits, Decimal.ofDigits_append, hasPlaces.length, Nat.mul_comm,
        Nat.mul_add_div (by positivity), Nat.div_eq_of_lt placesSmall, Nat.add_zero]
    rw [scale, quotient]
    exact hasPlaces.whole.eq_digits
  · rw [← hasPlaces.length]
    exact (Decimal.lowestDigits_ofDigits _ hasPlaces.small).symm

end Spelling

/-! ### The text of a number -/

/-- The decimal of a number with some places. -/
def spelling (places : Nat) (number : Binary64) : Spelling where
  whole := Decimal.digits (units places number / Decimal.power places)
  places := Decimal.lowestDigits places (units places number)

theorem spelling_hasPlaces (places : Nat) (number : Binary64) :
    (spelling places number).HasPlaces places where
  whole := Decimal.digits_isCanonical _
  length := Decimal.length_lowestDigits _ _
  small := Decimal.lowestDigits_lt_ten _ _

theorem toList_text (places : Nat) (number : Binary64) :
    (text places number).toList = (spelling places number).characters number.isNegative := by
  have pointless : (spelling places number).places = [] ↔ places = 0 := by
    rw [← List.length_eq_zero_iff, (spelling_hasPlaces places number).length]
  rw [text, String.toList_ofList, Spelling.characters, unitChars, List.append_assoc]
  simp only [pointless]
  rfl

/-- A text shows a number with some places: a minus sign exactly if its sign bit is set, and the
decimal with these places that is nearest to its exact magnitude. -/
def Renders (places : Nat) (number : Binary64) (text : String) : Prop :=
  ∃ spelling : Spelling, spelling.HasPlaces places ∧ spelling.IsNearest |number.toRat| ∧
    text.toList = spelling.characters number.isNegative

theorem abs_toRat (number : Binary64) : |number.toRat| = number.magnitude :=
  abs_signed number.isNegative number.magnitude_nonneg

/-- A number has one decimal with some places. -/
theorem isNearest_iff_eq {places : Nat} {number : Binary64} {candidate : Spelling}
    (hasPlaces : candidate.HasPlaces places) :
    candidate.IsNearest |number.toRat| ↔ candidate = spelling places number := by
  have rounds := units_rounds places number
  constructor
  · intro nearest
    rw [hasPlaces.isNearest_iff, abs_toRat] at nearest
    obtain ⟨whole, behind⟩ := hasPlaces.eq_of_count
    rw [nearest.unique rounds] at whole behind
    cases candidate
    cases whole
    cases behind
    rfl
  · rintro rfl
    rw [hasPlaces.isNearest_iff, abs_toRat]
    have count : Decimal.ofDigits (spelling places number).digits = units places number :=
      Decimal.ofDigits_units places _
    rwa [count]

theorem renders_iff {places : Nat} {number : Binary64} {shown : String} :
    Renders places number shown ↔ shown = text places number := by
  constructor
  · rintro ⟨candidate, hasPlaces, nearest, characters⟩
    obtain rfl := (isNearest_iff_eq hasPlaces).mp nearest
    rw [← toList_text] at characters
    exact String.toList_inj.mp characters
  · rintro rfl
    have hasPlaces := spelling_hasPlaces places number
    exact ⟨_, hasPlaces, (isNearest_iff_eq hasPlaces).mpr rfl, toList_text places number⟩

end FixedPoint

namespace Observation

/-- **A finite number is written as its exact value, rounded once.** With any number of places, its
text is the one that shows it: a minus sign exactly if its sign bit is set, digits without
superfluous zeros, a point and the places where there are any, and these digits spell the nearest
multiple of the unit of the last place, a tie going to the even last digit. Values have six places
and timestamps none. -/
theorem floatText_renders (number : Binary64) (finite : number.isFinite = true) :
    (∀ places text, FixedPoint.Renders places number text ↔ text = floatText places number) ∧
      valueText (.float number) = .ok (floatText 6 number) ∧
      timestampText (.float number) = .ok (floatText 0 number) := by
  refine ⟨fun places text => ?_, rfl, rfl⟩
  rw [floatText_of_isFinite finite]
  exact FixedPoint.renders_iff

/-- Minus nine and a half is just between two integers. It is shown as the even one, which has a
digit more. -/
theorem floatText_renders_tie :
    let number : Binary64 := ⟨0xC023000000000000⟩
    FixedPoint.Renders 0 number "-10" ∧ ¬FixedPoint.Renders 0 number "-9" ∧
      FixedPoint.Renders 6 number "-9.500000" ∧ timestampText (.float number) = .ok "-10" := by
  intro number
  have whole : floatText 0 number = "-10" := by decide +kernel
  have fraction : floatText 6 number = "-9.500000" := by decide +kernel
  obtain ⟨renders, -, timestamp⟩ := floatText_renders number (by decide +kernel)
  refine ⟨(renders 0 _).mpr whole.symm, ?_, (renders 6 _).mpr fraction.symm, ?_⟩
  · rw [renders, whole]
    decide
  · rw [timestamp, whole]

end Observation

end MetricIntake
