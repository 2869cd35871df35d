import MetricIntake.Bytes

/-!
Contract: UTF-8 between text and byte strings.

Owns:
- the encoding of one character and of a text;
- the reading of one character from the front of a byte string, which either gives the character
  or says how long the maximal invalid start is;
- strict decoding, which refuses any invalid start, and lossy decoding, which puts one replacement
  character in the place of each maximal invalid start.

Does not own: which fields of a format are text.
-/

namespace MetricIntake.Utf8

/-- The UTF-8 form of one character: one to four bytes by the size of its code point. -/
def encodeChar (character : Char) : Bytes :=
  let code := character.toNat
  if code < 0x80 then
    [UInt8.ofNat code]
  else if code < 0x800 then
    [UInt8.ofNat (0xC0 + code / 64), UInt8.ofNat (0x80 + code % 64)]
  else if code < 0x10000 then
    [UInt8.ofNat (0xE0 + code / 4096), UInt8.ofNat (0x80 + code / 64 % 64),
      UInt8.ofNat (0x80 + code % 64)]
  else
    [UInt8.ofNat (0xF0 + code / 262144), UInt8.ofNat (0x80 + code / 4096 % 64),
      UInt8.ofNat (0x80 + code / 64 % 64), UInt8.ofNat (0x80 + code % 64)]

def encodeChars (characters : List Char) : Bytes :=
  characters.flatMap encodeChar

def encode (text : String) : Bytes :=
  encodeChars text.toList

/-- The number of continuation bytes after a first byte and the range of the first of them, which
is what keeps overlong forms, surrogates and numbers above `10FFFF` out. -/
structure Lead where
  tail : Nat
  low : Nat
  high : Nat
  bits : Nat
deriving DecidableEq, Repr

/-- What a first byte announces; `none` where no character starts with it. -/
def lead (first : UInt8) : Option Lead :=
  let code := first.toNat
  if code < 0x80 then some ⟨0, 0x80, 0xBF, code⟩
  else if code < 0xC2 then none
  else if code < 0xE0 then some ⟨1, 0x80, 0xBF, code - 0xC0⟩
  else if code < 0xF0 then
    some ⟨2, if code = 0xE0 then 0xA0 else 0x80, if code = 0xED then 0x9F else 0xBF,
      code - 0xE0⟩
  else if code < 0xF5 then
    some ⟨3, if code = 0xF0 then 0x90 else 0x80, if code = 0xF4 then 0x8F else 0xBF,
      code - 0xF0⟩
  else none

/-- One step of reading: a character, or a maximal invalid start that was passed over. -/
inductive Step where
  | character (value : Char)
  | invalid
deriving DecidableEq, Repr

/-- Reads `tail` continuation bytes, the next of them between `low` and `high`. A byte out of range
ends the attempt and stays unread, so that a new character may start with it. -/
def continuation : (tail low high bits : Nat) → Bytes → Step × Bytes
  | 0, _, _, bits, rest => (.character (Char.ofNat bits), rest)
  | _ + 1, _, _, _, [] => (.invalid, [])
  | tail + 1, low, high, bits, byte :: rest =>
      if low ≤ byte.toNat ∧ byte.toNat ≤ high then
        continuation tail 0x80 0xBF (bits * 64 + (byte.toNat - 0x80)) rest
      else (.invalid, byte :: rest)

/-- Reads one character, or passes over the maximal invalid start, from `first` and what follows. -/
def step (first : UInt8) (rest : Bytes) : Step × Bytes :=
  match lead first with
  | none => (.invalid, rest)
  | some announced =>
      continuation announced.tail announced.low announced.high announced.bits rest

theorem continuation_length_le (tail low high bits : Nat) (rest : Bytes) :
    (continuation tail low high bits rest).2.length ≤ rest.length := by
  induction tail generalizing low high bits rest with
  | zero => simp [continuation]
  | succ tail inductionHypothesis =>
      cases rest with
      | nil => simp [continuation]
      | cons byte rest =>
          simp only [continuation]
          split
          · exact Nat.le_succ_of_le (inductionHypothesis _ _ _ _)
          · simp

theorem step_length_le (first : UInt8) (rest : Bytes) :
    (step first rest).2.length ≤ rest.length := by
  unfold step
  split
  · simp
  · exact continuation_length_le _ _ _ _ _

/-- The characters of a byte string, or nothing when it is not UTF-8. -/
def decodeChars? : Bytes → Option (List Char)
  | [] => some []
  | first :: rest =>
      match _outcome : step first rest with
      | (.character value, remaining) => (decodeChars? remaining).map (value :: ·)
      | (.invalid, _) => none
termination_by bytes => bytes.length
decreasing_by
  have := step_length_le first rest
  rw [_outcome] at this
  simp only [List.length_cons] at *
  omega

/-- The text of a byte string, or nothing when it is not UTF-8. -/
def decode? (bytes : Bytes) : Option String :=
  (decodeChars? bytes).map String.ofList

def replacement : Char := Char.ofNat 0xFFFD

/-- The characters of a byte string, each maximal invalid start replaced by one character. -/
def lossyChars : Bytes → List Char
  | [] => []
  | first :: rest =>
      match _outcome : step first rest with
      | (.character value, remaining) => value :: lossyChars remaining
      | (.invalid, remaining) => replacement :: lossyChars remaining
termination_by bytes => bytes.length
decreasing_by
  all_goals
    have := step_length_le first rest
    rw [_outcome] at this
    simp only [List.length_cons] at *
    omega

/-- The text of a byte string, each maximal invalid start replaced by one character. -/
def lossy (bytes : Bytes) : String :=
  String.ofList (lossyChars bytes)

end MetricIntake.Utf8
