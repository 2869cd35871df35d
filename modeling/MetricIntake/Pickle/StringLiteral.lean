import MetricIntake.Bytes

/-!
Contract: strings written with backslash escapes on one line of a payload.

Owns:
- byte strings between optional quotes, with single-letter and two-digit escapes;
- character strings in which only four-digit and eight-digit code points are escaped.

Does not own: the line itself, nor the text encoding of the resulting bytes.
-/

namespace MetricIntake.Pickle.StringLiteral

def backslash : UInt8 := 0x5C

def quotes : List UInt8 := [0x27, 0x22]

def hexValue? (byte : UInt8) : Option Nat :=
  let code := byte.toNat
  if 48 ≤ code ∧ code ≤ 57 then some (code - 48)
  else if 97 ≤ code ∧ code ≤ 102 then some (code - 87)
  else if 65 ≤ code ∧ code ≤ 70 then some (code - 55)
  else none

def hexNumber? : Bytes → Option Nat
  | digits => digits.foldlM (fun number byte => (hexValue? byte).map (16 * number + ·)) 0

def unquote (literal : Bytes) : Bytes :=
  match literal.head?, literal.getLast? with
  | some first, some last =>
      if 2 ≤ literal.length ∧ first = last ∧ first ∈ quotes then (literal.drop 1).dropLast
      else literal
  | _, _ => literal

def letterEscape? (letter : UInt8) : Option UInt8 :=
  match letter.toNat with
  | 0x5C => some 0x5C
  | 0x61 => some 7
  | 0x62 => some 8
  | 0x74 => some 9
  | 0x6E => some 10
  | 0x76 => some 11
  | 0x66 => some 12
  | 0x72 => some 13
  | _ => none

def hexLetter : UInt8 := 0x78

/-- The bytes that an escaped byte string stands for, unless an escape is unknown or cut short. -/
def bytes? : Bytes → Option Bytes
  | [] => some []
  | byte :: rest =>
      if byte ≠ backslash then (bytes? rest).map (byte :: ·)
      else
        match rest with
        | [] => none
        | letter :: rest =>
            match letterEscape? letter with
            | some escaped => (bytes? rest).map (escaped :: ·)
            | none =>
                match rest with
                | high :: low :: rest =>
                    if letter = hexLetter then do
                      let code ← hexNumber? [high, low]
                      let decoded ← bytes? rest
                      return UInt8.ofNat code :: decoded
                    else none
                | _ => none

/-- How many hexadecimal digits follow the letter of a code point escape. -/
def codePointDigits? (letter : UInt8) : Option Nat :=
  match letter.toNat with
  | 0x75 => some 4
  | 0x55 => some 8
  | _ => none

/-- The character of a code point, unless it is a surrogate or too great. -/
def character? (code : Nat) : Option Char :=
  if code < 0xD800 ∨ (0xDFFF < code ∧ code < 0x110000) then some (Char.ofNat code) else none

/-- The characters that an escaped character string stands for. An unescaped byte is the character
of its own number. -/
def characters? (literal : Bytes) : Option (List Char) :=
  match literal with
  | [] => some []
  | byte :: rest =>
      if byte ≠ backslash then (characters? rest).map (Char.ofNat byte.toNat :: ·)
      else
        match rest with
        | [] => none
        | letter :: rest =>
            match codePointDigits? letter with
            | none => none
            | some count =>
                if rest.length < count then none
                else do
                  let code ← hexNumber? (rest.take count)
                  let character ← character? code
                  let decoded ← characters? (rest.drop count)
                  return character :: decoded
termination_by literal.length
decreasing_by
  all_goals simp only [List.length_cons, List.length_drop]; omega

end MetricIntake.Pickle.StringLiteral
