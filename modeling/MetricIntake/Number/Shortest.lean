import MetricIntake.Number.Binary64

/-!
Contract: the shortest decimal that reads back as a floating-point number.

Owns:
- the interval of rationals that round to a number;
- the search for the coarsest power of ten with a multiple in that interval;
- the text that diagnostics print, positional for moderate magnitudes and with an exponent
  otherwise.

Does not own: reading; `Number.Literal` rounds a decimal back to a number.
-/

namespace MetricIntake.Shortest

/-- A positive decimal, `coefficient · 10 ^ exponent`. -/
structure Scientific where
  coefficient : Nat
  exponent : Int
deriving DecidableEq, Repr

/-- The rationals that round to a positive finite number, in units of a quarter of its last place.
The ends belong to the interval exactly when the significand is even, since a tie is rounded to
the even significand. -/
structure Interval where
  low : Nat
  middle : Nat
  high : Nat
  closed : Bool
  scale : Int
deriving DecidableEq, Repr

/-- The interval of a positive finite number. The neighbour below the least significand of an
exponent is only half as far away as the one above. -/
def interval (number : Binary64) : Interval :=
  let significand := number.significand
  let narrow := significand = Binary64.fractionPlace ∧ 1 < number.exponentField
  { low := 4 * significand - (if narrow then 1 else 2)
    middle := 4 * significand
    high := 4 * significand + 2
    closed := significand % 2 == 0
    scale := number.scale - 2 }

/-- An amount of interval units compared with a decimal, both brought to integers. -/
def compareDecimal (range : Interval) (amount : Nat) (candidate : Scientific) : Ordering :=
  compare ((amount <<< range.scale.toNat) * Decimal.power (-candidate.exponent).toNat)
    ((candidate.coefficient * Decimal.power candidate.exponent.toNat) <<< (-range.scale).toNat)

def holds (range : Interval) (candidate : Scientific) : Bool :=
  if range.closed then
    compareDecimal range range.low candidate != .gt &&
      compareDecimal range range.high candidate != .lt
  else
    compareDecimal range range.low candidate == .lt &&
      compareDecimal range range.high candidate == .gt

/-- The greatest multiple of `10 ^ exponent` that is not above the number. -/
def below (range : Interval) (exponent : Int) : Scientific :=
  ⟨((range.middle <<< range.scale.toNat) * Decimal.power (-exponent).toNat) /
    (Decimal.power exponent.toNat <<< (-range.scale).toNat), exponent⟩

/-- Of two neighbouring multiples the one that is nearer to the number; a tie goes up. -/
def nearer (range : Interval) (lower upper : Scientific) : Scientific :=
  let centre : Scientific :=
    ⟨10 * lower.coefficient + 5, lower.exponent - 1⟩
  if compareDecimal range range.middle centre == .lt then lower else upper

/-- The decimal to take on the grid of one power of ten, if one of the two neighbours on that grid
rounds to the number. -/
def onGrid? (range : Interval) (exponent : Int) : Option Scientific :=
  let lower := below range exponent
  let upper : Scientific := ⟨lower.coefficient + 1, exponent⟩
  match holds range lower, holds range upper with
  | true, true => some (nearer range lower upper)
  | true, false => some lower
  | false, true => some upper
  | false, false => none

/-- The exponent of the first digit of a positive fraction. -/
def leadingExponent (numerator denominator : Nat) : Int :=
  if denominator ≤ numerator then (Decimal.digitCount (numerator / denominator) : Int) - 1
  else -(Decimal.digitCount ((denominator + numerator - 1) / numerator - 1) : Int)

/-- Tries one digit more at a time, starting from the grid of `exponent`. -/
def refine (range : Interval) : (attempts : Nat) → (exponent : Int) → Scientific
  | 0, exponent => below range exponent
  | attempts + 1, exponent =>
      match onGrid? range exponent with
      | some found => found
      | none => refine range attempts (exponent - 1)

/-- Seventeen digits always suffice to tell one number from its neighbours. -/
def mostDigits : Nat := 17

/-- The shortest decimal of a positive finite number, and the nearest of the shortest. -/
def decimal (number : Binary64) : Scientific :=
  let (numerator, denominator) := number.ratio
  refine (interval number) mostDigits (leadingExponent numerator denominator)

/-- Drops zeros from the end of a digit list, keeping one digit. -/
def stripZeros : List Nat → List Nat
  | [] => []
  | [digit] => [digit]
  | digit :: rest =>
      match stripZeros rest with
      | [0] => [digit]
      | stripped => digit :: stripped

/-- How a diagnostic writes a number: positional text is used from `10 ^ least` on and below
`10 ^ beyond`. -/
structure Layout where
  /-- Exponent of the least magnitude written positionally. -/
  least : Int
  /-- Exponent of the least magnitude that is too great for positional text. -/
  beyond : Int

/-- Diagnostics write from a ten-thousandth on and below ten quadrillions positionally. -/
def diagnosticLayout : Layout := ⟨-4, 16⟩

/-- Positional characters of digits whose first stands at `10 ^ leading`, with at least one digit
on each side of the point. -/
def positional (digits : List Nat) (leading : Int) : List Char :=
  let characters := digits.map Decimal.digitChar
  if leading < 0 then
    ['0', '.'] ++ List.replicate (-leading - 1).toNat '0' ++ characters
  else
    let whole := leading.toNat + 1
    let integer := characters.take whole ++ List.replicate (whole - characters.length) '0'
    let rest := characters.drop whole
    integer ++ '.' :: (if rest.isEmpty then ['0'] else rest)

/-- Characters of digits with an exponent; a single digit has no point. -/
def scientific (digits : List Nat) (leading : Int) : List Char :=
  let characters := digits.map Decimal.digitChar
  let point := if characters.length ≤ 1 then [] else ['.']
  characters.take 1 ++ point ++ characters.drop 1 ++ 'e' :: (Decimal.intText leading).toList

def text (number : Binary64) : String :=
  let sign := if number.isNegative then ['-'] else []
  if number.isNaN then "NaN"
  else if number.isInfinite then String.ofList (sign ++ "inf".toList)
  else if number.significand = 0 then String.ofList (sign ++ "0.0".toList)
  else
    let shortest := decimal number
    let spelled := Decimal.digits shortest.coefficient
    let leading := shortest.exponent + spelled.length - 1
    let digits := stripZeros spelled
    let body :=
      if diagnosticLayout.least ≤ leading ∧ leading < diagnosticLayout.beyond then
        positional digits leading
      else scientific digits leading
    String.ofList (sign ++ body)

end MetricIntake.Shortest
