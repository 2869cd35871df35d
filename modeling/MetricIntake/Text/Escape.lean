import MetricIntake.Bytes
import MetricIntake.Text.Printable

/-!
Contract: quoted text in diagnostics.

Owns:
- the escape of one character inside quotes;
- the quoted form of a character and of a text.

Does not own: which characters can be seen; `Text.Printable` holds that.
-/

namespace MetricIntake.Escape

/-- The lower-case hexadecimal characters of a number, without leading zeros. -/
def hexChars (number : Nat) : List Char :=
  if number < 16 then [Bytes.hexDigit number]
  else hexChars (number / 16) ++ [Bytes.hexDigit (number % 16)]
termination_by number
decreasing_by omega

def backslash : Char := Char.ofNat 0x5C

/-- A character by its code point: a backslash, `u` and hexadecimal digits in braces. -/
def codePoint (character : Char) : List Char :=
  backslash :: 'u' :: Char.ofNat 0x7B :: hexChars character.toNat ++ [Char.ofNat 0x7D]

/-- The letter after the backslash for a character that has a short escape. -/
def shortEscape? (character : Char) : Option Char :=
  match character.toNat with
  | 0 => some '0'
  | 9 => some 't'
  | 10 => some 'n'
  | 13 => some 'r'
  | 0x5C => some backslash
  | _ => none

/-- One character as it stands between two `quote` characters. -/
def escape (quote character : Char) : List Char :=
  match shortEscape? character with
  | some letter => [backslash, letter]
  | none =>
      if character = quote then [backslash, character]
      else if Printable.standsAlone character then [character]
      else codePoint character

def doubleQuote : Char := Char.ofNat 0x22

def singleQuote : Char := Char.ofNat 0x27

def quoteText (text : String) : String :=
  String.ofList (doubleQuote :: text.toList.flatMap (escape doubleQuote) ++ [doubleQuote])

def quoteChar (character : Char) : String :=
  String.ofList (singleQuote :: escape singleQuote character ++ [singleQuote])

end MetricIntake.Escape
