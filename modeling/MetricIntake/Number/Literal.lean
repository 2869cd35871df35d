import MetricIntake.Bytes
import MetricIntake.Number.Binary64

/-!
Contract: numbers written as text in byte strings.

Owns:
- unsigned literals with an upper bound: an optional plus sign and digits;
- signed literals with bounds, and unbounded ones that allow underscores after the first digit;
- floating-point literals: an optional sign, then a name or a decimal with an optional exponent.

Does not own: where in a payload or line a literal stands. Nothing but the literal itself is
accepted: no blanks, no digits of another script.
-/

namespace MetricIntake.Literal

def isDigit (byte : UInt8) : Bool :=
  48 ≤ byte.toNat && byte.toNat ≤ 57

def digitValue (byte : UInt8) : Nat :=
  byte.toNat - 48

def digitsValue (digits : Bytes) : Nat :=
  Decimal.ofDigits (digits.map digitValue)

def plus : UInt8 := 43

def minus : UInt8 := 45

def underscore : UInt8 := 95

def point : UInt8 := 46

def dropPlus : Bytes → Bytes
  | byte :: rest => if byte = plus then rest else byte :: rest
  | [] => []

def splitSign : Bytes → Bool × Bytes
  | byte :: rest =>
      if byte = minus then (true, rest) else if byte = plus then (false, rest)
      else (false, byte :: rest)
  | [] => (false, [])

def digits? (literal : Bytes) : Option Nat :=
  if literal.isEmpty || !literal.all isDigit then none else some (digitsValue literal)

/-- A natural number of at most `greatest`: an optional plus sign, then digits. -/
def natural? (greatest : Nat) (literal : Bytes) : Option Nat :=
  (digits? (dropPlus literal)).filter (· ≤ greatest)

def leastInt64 : Int := -9223372036854775808

def greatestInt64 : Int := 9223372036854775807

def fitsInt64 (number : Int) : Bool :=
  leastInt64 ≤ number && number ≤ greatestInt64

/-- A signed 64-bit integer: an optional sign, then digits. -/
def int64? (literal : Bytes) : Option Int64 :=
  let (negative, body) := splitSign literal
  (digits? body).bind fun magnitude =>
    let number : Int := if negative then -(magnitude : Int) else magnitude
    if fitsInt64 number then some (Int64.ofInt number) else none

/-- An integer of any size: an optional sign, then digits, which may be separated by underscores
from the first digit on. -/
def integer? (literal : Bytes) : Option Int :=
  let (negative, body) := splitSign literal
  match body with
  | [] => none
  | first :: _ =>
      if first = underscore then none
      else
        let spelled := body.filter (· ≠ underscore)
        if spelled.all isDigit then
          let magnitude : Int := digitsValue spelled
          some (if negative then -magnitude else magnitude)
        else none

def lowerCase (byte : UInt8) : UInt8 :=
  if 65 ≤ byte.toNat ∧ byte.toNat ≤ 90 then byte + 32 else byte

def asciiBytes (text : String) : Bytes :=
  text.toList.map fun character => UInt8.ofNat character.toNat

/-- A floating-point number by name, in any case. The sign is kept also where it is no number. -/
def named? (negative : Bool) (name : Bytes) : Option Binary64 :=
  let lower := name.map lowerCase
  if lower = asciiBytes "inf" ∨ lower = asciiBytes "infinity" then
    some (Binary64.infinity negative)
  else if lower = asciiBytes "nan" then some (Binary64.quietNaN negative)
  else none

/-- The exponent after the digits of a decimal: nothing, or the letter, an optional sign and
digits. -/
def exponent? : Bytes → Option Int
  | [] => some 0
  | letter :: rest =>
      if lowerCase letter = 101 then
        let (negative, body) := splitSign rest
        (digits? body).map fun magnitude =>
          if negative then -(magnitude : Int) else (magnitude : Int)
      else none

/-- An unsigned decimal: digits with at most one point among them and at least one digit, then an
optional exponent. -/
def decimal? (negative : Bool) (literal : Bytes) : Option Binary64 :=
  let whole := literal.takeWhile isDigit
  let afterWhole := literal.dropWhile isDigit
  let afterPoint := match afterWhole with
    | byte :: rest => if byte = point then rest else []
    | [] => []
  let places := afterPoint.takeWhile isDigit
  let remaining := match afterWhole with
    | byte :: _ => if byte = point then afterPoint.dropWhile isDigit else afterWhole
    | [] => []
  if whole.isEmpty && places.isEmpty then none
  else
    (exponent? remaining).map fun exponent =>
      Binary64.ofDecimal negative (digitsValue (whole ++ places)) (exponent - places.length)

/-- A floating-point number: an optional sign, then a name or a decimal. It is the number nearest
to the decimal, a tie going to the even significand. -/
def binary64? (literal : Bytes) : Option Binary64 :=
  let (negative, body) := splitSign literal
  match named? negative body with
  | some number => some number
  | none => decimal? negative body

end MetricIntake.Literal
