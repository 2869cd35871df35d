import MetricIntake.Number.Decimal

/-!
Contract: the 64-bit binary floating-point numbers of a metric, as words with exact values.

Owns:
- the fields of a word and the classes of not-a-number, infinity and finite number;
- the exact magnitude of a finite number, `significand · 2 ^ scale`;
- the nearest number to a fraction and to a decimal, a tie going to the even significand;
- the order of numbers.

Does not own: any text; `Number.FixedPoint`, `Number.Shortest` and `Number.Literal` read and write
numbers through these definitions. Nothing here computes with hardware numbers, so each result is
one exact rounding of a rational.
-/

namespace MetricIntake

/-- A floating-point number, as its word of 64 bits: the sign, eleven bits of exponent and 52 bits
of fraction. -/
structure Binary64 where
  bits : UInt64
deriving DecidableEq, Repr

namespace Binary64

def signPlace : Nat := 0x8000000000000000

def fractionPlace : Nat := 0x10000000000000

def specialField : Nat := 2047

def isNegative (number : Binary64) : Bool :=
  signPlace ≤ number.bits.toNat

/-- The word without its sign bit. -/
def magnitudeCode (number : Binary64) : Nat :=
  number.bits.toNat % signPlace

def exponentField (number : Binary64) : Nat :=
  number.magnitudeCode / fractionPlace

def fraction (number : Binary64) : Nat :=
  number.magnitudeCode % fractionPlace

def isNaN (number : Binary64) : Bool :=
  number.exponentField == specialField && number.fraction != 0

def isInfinite (number : Binary64) : Bool :=
  number.exponentField == specialField && number.fraction == 0

/-- The integer significand of a finite number; a normal number has a leading bit beside its
fraction. -/
def significand (number : Binary64) : Nat :=
  if number.exponentField = 0 then number.fraction else fractionPlace + number.fraction

/-- How far the least scale lies below zero. -/
def leastScale : Nat := 1074

/-- The power of two that the significand of a finite number is multiplied by. -/
def scale (number : Binary64) : Int :=
  (max number.exponentField 1 : Nat) - 1 - (leastScale : Int)

/-- The exact magnitude of a finite number, as numerator and denominator. -/
def ratio (number : Binary64) : Nat × Nat :=
  (number.significand <<< number.scale.toNat, 1 <<< (-number.scale).toNat)

/-- The number with a given sign and word without sign. -/
def ofCode (negative : Bool) (code : Nat) : Binary64 :=
  ⟨UInt64.ofNat (if negative then signPlace + code else code)⟩

def zero (negative : Bool) : Binary64 :=
  ofCode negative 0

def infinity (negative : Bool) : Binary64 :=
  ofCode negative (specialField * fractionPlace)

/-- The word with a given sign that stands for no number, with the highest fraction bit set. -/
def quietNaN (negative : Bool) : Binary64 :=
  ofCode negative (specialField * fractionPlace + fractionPlace / 2)

def nan : Binary64 :=
  quietNaN false

/-- The greatest `exponent` with `2 ^ exponent ≤ numerator / denominator`, for positive
arguments: the difference of the bit lengths, or one less. -/
def binaryExponent (numerator denominator : Nat) : Int :=
  let guess := (numerator.log2 : Int) - denominator.log2
  if denominator <<< guess.toNat ≤ numerator <<< (-guess).toNat then guess else guess - 1

/-- The number nearest to a fraction, a tie going to the even significand; too great a fraction
gives the infinity.

The significand is the fraction in units of the last place, rounded once. Written on top of the
scale it carries into the exponent by itself when it rounds up to the next power of two. -/
def ofRatio (negative : Bool) (numerator denominator : Nat) : Binary64 :=
  if numerator = 0 then zero negative
  else
    let unit : Int := max (binaryExponent numerator denominator - 52) (-(leastScale : Int))
    let rounded := Decimal.divideHalfEven (numerator <<< (-unit).toNat) (denominator <<< unit.toNat)
    let code := (unit + leastScale).toNat * fractionPlace + rounded
    ofCode negative (min code (specialField * fractionPlace))

def ofInt (number : Int) : Binary64 :=
  ofRatio (decide (number < 0)) number.natAbs 1

def overflowExponent : Int := 310

def underflowExponent : Int := -330

/-- The number nearest to `coefficient · 10 ^ exponent`. Exponents that are out of reach are
answered without the power of ten. -/
def ofDecimal (negative : Bool) (coefficient : Nat) (exponent : Int) : Binary64 :=
  let magnitude := exponent + Decimal.digitCount coefficient
  if coefficient = 0 then zero negative
  else if overflowExponent < magnitude then infinity negative
  else if magnitude < underflowExponent then zero negative
  else ofRatio negative (coefficient * Decimal.power exponent.toNat)
    (Decimal.power (-exponent).toNat)

/-- The place of a number in the order of values: both zeros stand at zero, and the words of each
sign are in the order of their magnitudes. -/
def rank (number : Binary64) : Int :=
  if number.isNegative then -(number.magnitudeCode : Int) else number.magnitudeCode

/-- The order of two values; `none` when either is not a number. -/
def compare? (left right : Binary64) : Option Ordering :=
  if left.isNaN || right.isNaN then none else some (compare left.rank right.rank)

end Binary64

end MetricIntake
