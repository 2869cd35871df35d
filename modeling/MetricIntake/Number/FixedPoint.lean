import MetricIntake.Number.Binary64

/-!
Contract: floating-point numbers with a fixed number of decimal places.

Owns:
- the nearest multiple of a power of ten, a half going to the even last digit;
- its text: all integer digits, then a point and exactly the places asked for, if any.

Does not own: the spelling of infinities and of what is not a number, which is the caller's.
-/

namespace MetricIntake.FixedPoint

/-- The magnitude of a finite number in units of `10 ^ -places`, rounded once from its exact
value. -/
def units (places : Nat) (number : Binary64) : Nat :=
  let (numerator, denominator) := number.ratio
  Decimal.divideHalfEven (numerator * Decimal.power places) denominator

/-- The characters of a count of units of `10 ^ -places`. -/
def unitChars (places count : Nat) : List Char :=
  Decimal.natChars (count / Decimal.power places) ++
    if places = 0 then [] else '.' :: (Decimal.lowestDigits places count).map Decimal.digitChar

/-- The text of a finite number. A set sign bit is always written, also before a zero. -/
def text (places : Nat) (number : Binary64) : String :=
  String.ofList ((if number.isNegative then ['-'] else []) ++
    unitChars places (units places number))

end MetricIntake.FixedPoint
