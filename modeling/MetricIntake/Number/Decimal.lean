/-!
Contract: decimal digits of natural numbers and integers.

Owns:
- the digits of a number without leading zeros, and its lowest digits to a fixed count;
- the text of a natural number and of an integer;
- the number that a list of digits spells, and the powers of ten;
- division rounded to the nearest integer, a half going to the even neighbour.

Does not own: which places a number is written with; fixed point and shortest text are built on
these digits.
-/

namespace MetricIntake.Decimal

/-- The digits of a number, most significant first, without leading zeros; zero has one digit. -/
def digits (number : Nat) : List Nat :=
  if number < 10 then [number] else digits (number / 10) ++ [number % 10]
termination_by number
decreasing_by omega

/-- The lowest `count` digits of a number, most significant first, with leading zeros. -/
def lowestDigits : (count number : Nat) → List Nat
  | 0, _ => []
  | count + 1, number => lowestDigits count (number / 10) ++ [number % 10]

/-- The number that a list of digits spells, most significant first. -/
def ofDigits (digits : List Nat) : Nat :=
  digits.foldl (fun number digit => 10 * number + digit) 0

def power (zeros : Nat) : Nat :=
  Nat.pow 10 zeros

/-- How many digits a number has; zero has one. -/
def digitCount (number : Nat) : Nat :=
  (digits number).length

def digitChar (digit : Nat) : Char :=
  Char.ofNat ('0'.toNat + digit)

def natChars (number : Nat) : List Char :=
  (digits number).map digitChar

def natText (number : Nat) : String :=
  String.ofList (natChars number)

def intText : Int → String
  | .ofNat magnitude => natText magnitude
  | .negSucc magnitude => "-" ++ natText (magnitude + 1)

/-- The quotient rounded to the nearest integer; a half goes to the even neighbour. -/
def divideHalfEven (numerator denominator : Nat) : Nat :=
  let quotient := numerator / denominator
  let doubled := 2 * (numerator % denominator)
  if doubled < denominator then quotient
  else if denominator < doubled then quotient + 1
  else quotient + quotient % 2

end MetricIntake.Decimal
