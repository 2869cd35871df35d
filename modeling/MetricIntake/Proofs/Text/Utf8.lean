import Mathlib.Tactic.SplitIfs
import MetricIntake.Text.Utf8

/-!
Contract: encoded text is read back.

Owns:
- the round trip of one character, at each of its four widths, in front of any bytes;
- the round trip of a text;
- that a character that is read has the bytes that were read, so that decoding undoes nothing but
  encoding;
- the bytes of characters below 128, and that no other character has such a byte.

Does not own: where a refused start ends.
-/

set_option autoImplicit false

namespace MetricIntake.Utf8

/-! ### One character -/

theorem toNat_ofNat_of_lt {number : Nat} (small : number < 256) :
    (UInt8.ofNat number).toNat = number := by
  rw [UInt8.toNat_ofNat', Nat.mod_eq_of_lt small]

theorem codePoint_range (character : Char) :
    character.toNat < 0xD800 ∨ 0xDFFF < character.toNat ∧ character.toNat < 0x110000 :=
  character.valid

theorem continuation_ofNat {low high code : Nat} (tail bits : Nat) (rest : Bytes)
    (small : code < 256) (inRange : low ≤ code ∧ code ≤ high) :
    continuation (tail + 1) low high bits (UInt8.ofNat code :: rest) =
      continuation tail 0x80 0xBF (bits * 64 + (code - 0x80)) rest := by
  rw [continuation, toNat_ofNat_of_lt small, if_pos inRange]

theorem lead_one {code : Nat} (high : code < 0x80) :
    lead (UInt8.ofNat code) = some ⟨0, 0x80, 0xBF, code⟩ := by
  simp only [lead, toNat_ofNat_of_lt (show code < 256 by omega)]
  rw [if_pos high]

theorem lead_two {code : Nat} (low : 0x80 ≤ code) (high : code < 0x800) :
    lead (UInt8.ofNat (0xC0 + code / 64)) = some ⟨1, 0x80, 0xBF, code / 64⟩ := by
  simp only [lead, toNat_ofNat_of_lt (show 0xC0 + code / 64 < 256 by omega)]
  rw [if_neg (by omega), if_neg (by omega), if_pos (by omega), Nat.add_sub_cancel_left]

theorem lead_three {code : Nat} (low : 0x800 ≤ code) (high : code < 0x10000) :
    lead (UInt8.ofNat (0xE0 + code / 4096)) =
      some ⟨2, if code / 4096 = 0 then 0xA0 else 0x80, if code / 4096 = 0xD then 0x9F else 0xBF,
        code / 4096⟩ := by
  simp only [lead, toNat_ofNat_of_lt (show 0xE0 + code / 4096 < 256 by omega)]
  rw [if_neg (by omega), if_neg (by omega), if_neg (by omega), if_pos (by omega),
    Nat.add_sub_cancel_left]
  have first : (0xE0 + code / 4096 = 0xE0) = (code / 4096 = 0) := by simp
  have surrogates : (0xE0 + code / 4096 = 0xED) = (code / 4096 = 0xD) := propext (by omega)
  simp only [first, surrogates]

theorem lead_four {code : Nat} (low : 0x10000 ≤ code) (high : code < 0x110000) :
    lead (UInt8.ofNat (0xF0 + code / 262144)) =
      some ⟨3, if code / 262144 = 0 then 0x90 else 0x80, if code / 262144 = 4 then 0x8F else 0xBF,
        code / 262144⟩ := by
  simp only [lead, toNat_ofNat_of_lt (show 0xF0 + code / 262144 < 256 by omega)]
  rw [if_neg (by omega), if_neg (by omega), if_neg (by omega), if_neg (by omega),
    if_pos (by omega), Nat.add_sub_cancel_left]
  have first : (0xF0 + code / 262144 = 0xF0) = (code / 262144 = 0) := by simp
  have last : (0xF0 + code / 262144 = 0xF4) = (code / 262144 = 4) := propext (by omega)
  simp only [first, last]

theorem step_encodeChar (character : Char) (rest : Bytes) :
    ∃ first tail, encodeChar character = first :: tail ∧
      step first (tail ++ rest) = (.character character, rest) := by
  have range := codePoint_range character
  have same : Char.ofNat character.toNat = character := Char.ofNat_toNat character
  simp only [encodeChar]
  by_cases one : character.toNat < 0x80
  · rw [if_pos one]
    refine ⟨_, _, rfl, ?_⟩
    simp only [step, lead_one one, continuation, List.nil_append, same]
  rw [if_neg one]
  by_cases two : character.toNat < 0x800
  · rw [if_pos two]
    refine ⟨_, _, rfl, ?_⟩
    simp only [step, lead_two (by omega) two, List.cons_append, List.nil_append]
    rw [continuation_ofNat _ _ _ (by omega) (by omega), continuation]
    have spelled : character.toNat / 64 * 64 + (0x80 + character.toNat % 64 - 0x80) =
        character.toNat := by omega
    rw [spelled, same]
  rw [if_neg two]
  by_cases three : character.toNat < 0x10000
  · rw [if_pos three]
    refine ⟨_, _, rfl, ?_⟩
    simp only [step, lead_three (by omega) three, List.cons_append, List.nil_append]
    -- No code point of a character lies among the surrogates, so the byte after `ED` is low enough.
    rw [continuation_ofNat _ _ _ (by omega) (by split <;> split <;> omega),
      continuation_ofNat _ _ _ (by omega) (by omega), continuation]
    have spelled : (character.toNat / 4096 * 64 +
          (0x80 + character.toNat / 64 % 64 - 0x80)) * 64 +
        (0x80 + character.toNat % 64 - 0x80) = character.toNat := by omega
    rw [spelled, same]
  · rw [if_neg three]
    refine ⟨_, _, rfl, ?_⟩
    simp only [step, lead_four (show 0x10000 ≤ character.toNat by omega)
      (show character.toNat < 0x110000 by omega), List.cons_append, List.nil_append]
    rw [continuation_ofNat _ _ _ (by omega) (by split <;> split <;> omega),
      continuation_ofNat _ _ _ (by omega) (by omega),
      continuation_ofNat _ _ _ (by omega) (by omega), continuation]
    have spelled : ((character.toNat / 262144 * 64 +
            (0x80 + character.toNat / 4096 % 64 - 0x80)) * 64 +
          (0x80 + character.toNat / 64 % 64 - 0x80)) * 64 +
        (0x80 + character.toNat % 64 - 0x80) = character.toNat := by omega
    rw [spelled, same]

/-! ### Text -/

theorem decodeChars?_encodeChars_append (characters : List Char) (rest : Bytes) :
    decodeChars? (encodeChars characters ++ rest) =
      (decodeChars? rest).map (characters ++ ·) := by
  induction characters with
  | nil => simp [encodeChars]
  | cons character others inductionHypothesis =>
      obtain ⟨first, tail, spelled, read⟩ :=
        step_encodeChar character (encodeChars others ++ rest)
      have joined : encodeChars (character :: others) ++ rest =
          first :: (tail ++ (encodeChars others ++ rest)) := by
        simp [encodeChars, spelled]
      rw [joined, decodeChars?]
      split
      · rename_i value remaining outcome
        rw [read] at outcome
        simp only [Prod.mk.injEq, Step.character.injEq] at outcome
        rw [← outcome.1, ← outcome.2, inductionHypothesis, Option.map_map]
        rfl
      · rename_i outcome
        simp [read] at outcome

theorem lossyChars_encodeChars (characters : List Char) :
    lossyChars (encodeChars characters) = characters := by
  induction characters with
  | nil => rw [encodeChars, List.flatMap_nil, lossyChars]
  | cons character others inductionHypothesis =>
      obtain ⟨first, tail, spelled, read⟩ := step_encodeChar character (encodeChars others)
      have joined : encodeChars (character :: others) = first :: (tail ++ encodeChars others) := by
        simp [encodeChars, spelled]
      rw [joined, lossyChars]
      split
      · rename_i value remaining outcome
        rw [read] at outcome
        simp only [Prod.mk.injEq, Step.character.injEq] at outcome
        rw [← outcome.1, ← outcome.2, inductionHypothesis]
      · rename_i outcome
        simp [read] at outcome

/-- Nothing is replaced in encoded text. -/
theorem lossy_encode (text : String) : lossy (encode text) = text := by
  rw [lossy, encode, lossyChars_encodeChars, String.ofList_toList]

/-- **Encoded text is read back.** -/
theorem decode?_encode (text : String) : decode? (encode text) = some text := by
  have chars := decodeChars?_encodeChars_append text.toList []
  rw [List.append_nil] at chars
  rw [decode?, encode, chars]
  simp [decodeChars?]

/-! ### What is read was encoded -/

theorem toNat_charOfNat {code : Nat} (valid : code < 0xD800 ∨ 0xDFFF < code ∧ code < 0x110000) :
    (Char.ofNat code).toNat = code := by
  rw [Char.ofNat, dif_pos valid]
  rfl

/-- A character that is read has one continuation byte for each byte that was announced. -/
theorem continuation_succ_eq {tail low high bits : Nat} {rest remaining : Bytes} {character : Char}
    (outcome : continuation (tail + 1) low high bits rest = (.character character, remaining)) :
    ∃ byte others, rest = byte :: others ∧ low ≤ byte.toNat ∧ byte.toNat ≤ high ∧
      continuation tail 0x80 0xBF (bits * 64 + (byte.toNat - 0x80)) others =
        (.character character, remaining) := by
  cases rest with
  | nil => simp [continuation] at outcome
  | cons byte others =>
      rw [continuation] at outcome
      split_ifs at outcome with inRange
      · exact ⟨byte, others, rfl, inRange.1, inRange.2, outcome⟩
      · simp at outcome

theorem continuation_zero_eq {low high bits : Nat} {rest remaining : Bytes} {character : Char}
    (outcome : continuation 0 low high bits rest = (.character character, remaining)) :
    character = Char.ofNat bits ∧ remaining = rest := by
  simp only [continuation, Prod.mk.injEq, Step.character.injEq] at outcome
  exact ⟨outcome.1.symm, outcome.2.symm⟩

theorem ofNat_eq_of_toNat {code : Nat} {byte : UInt8} (same : code = byte.toNat) :
    UInt8.ofNat code = byte := by
  rw [same, UInt8.ofNat_toNat]

section Widths

variable {code : Nat}

theorem encodeChar_one (high : code < 0x80) : encodeChar (Char.ofNat code) = [UInt8.ofNat code] := by
  have same : (Char.ofNat code).toNat = code := toNat_charOfNat (.inl (by omega))
  simp only [encodeChar, same, if_pos high]

theorem encodeChar_two (low : 0x80 ≤ code) (high : code < 0x800) :
    encodeChar (Char.ofNat code) =
      [UInt8.ofNat (0xC0 + code / 64), UInt8.ofNat (0x80 + code % 64)] := by
  have same : (Char.ofNat code).toNat = code := toNat_charOfNat (.inl (by omega))
  have notOne : ¬code < 0x80 := by omega
  simp only [encodeChar, same, if_neg notOne, if_pos high]

theorem encodeChar_three (low : 0x800 ≤ code) (high : code < 0x10000)
    (valid : code < 0xD800 ∨ 0xDFFF < code) :
    encodeChar (Char.ofNat code) =
      [UInt8.ofNat (0xE0 + code / 4096), UInt8.ofNat (0x80 + code / 64 % 64),
        UInt8.ofNat (0x80 + code % 64)] := by
  have same : (Char.ofNat code).toNat = code := toNat_charOfNat (by omega)
  have notOne : ¬code < 0x80 := by omega
  have notTwo : ¬code < 0x800 := by omega
  simp only [encodeChar, same, if_neg notOne, if_neg notTwo, if_pos high]

theorem encodeChar_four (low : 0x10000 ≤ code) (high : code < 0x110000) :
    encodeChar (Char.ofNat code) =
      [UInt8.ofNat (0xF0 + code / 262144), UInt8.ofNat (0x80 + code / 4096 % 64),
        UInt8.ofNat (0x80 + code / 64 % 64), UInt8.ofNat (0x80 + code % 64)] := by
  have same : (Char.ofNat code).toNat = code := toNat_charOfNat (by omega)
  have notOne : ¬code < 0x80 := by omega
  have notTwo : ¬code < 0x800 := by omega
  have notThree : ¬code < 0x10000 := by omega
  simp only [encodeChar, same, if_neg notOne, if_neg notTwo, if_neg notThree]

end Widths

section Starts

variable {first : UInt8} {rest remaining : Bytes} {character : Char}

theorem encodeChar_of_two (range : 0xC2 ≤ first.toNat ∧ first.toNat < 0xE0)
    (outcome : continuation 1 0x80 0xBF (first.toNat - 0xC0) rest =
      (.character character, remaining)) :
    encodeChar character ++ remaining = first :: rest := by
  obtain ⟨second, rest, rfl, secondLow, secondHigh, outcome⟩ := continuation_succ_eq outcome
  obtain ⟨value, untouched⟩ := continuation_zero_eq outcome
  rw [value, untouched, encodeChar_two (by omega) (by omega),
    ofNat_eq_of_toNat (show _ = first.toNat by omega),
    ofNat_eq_of_toNat (show _ = second.toNat by omega)]
  rfl

theorem encodeChar_of_three (range : 0xE0 ≤ first.toNat ∧ first.toNat < 0xF0)
    (outcome : continuation 2 (if first.toNat = 0xE0 then 0xA0 else 0x80)
      (if first.toNat = 0xED then 0x9F else 0xBF) (first.toNat - 0xE0) rest =
        (.character character, remaining)) :
    encodeChar character ++ remaining = first :: rest := by
  obtain ⟨second, rest, rfl, secondLow, secondHigh, outcome⟩ := continuation_succ_eq outcome
  obtain ⟨third, rest, rfl, thirdLow, thirdHigh, outcome⟩ := continuation_succ_eq outcome
  obtain ⟨value, untouched⟩ := continuation_zero_eq outcome
  -- The range of the second byte keeps overlong forms and surrogates out.
  have secondRange : 0x80 ≤ second.toNat ∧ second.toNat ≤ 0xBF ∧
      (first.toNat = 0xE0 → 0xA0 ≤ second.toNat) ∧
      (first.toNat = 0xED → second.toNat ≤ 0x9F) := by
    split at secondLow <;> split at secondHigh <;> omega
  rw [value, untouched, encodeChar_three (by omega) (by omega) (by omega),
    ofNat_eq_of_toNat (show _ = first.toNat by omega),
    ofNat_eq_of_toNat (show _ = second.toNat by omega),
    ofNat_eq_of_toNat (show _ = third.toNat by omega)]
  rfl

theorem encodeChar_of_four (range : 0xF0 ≤ first.toNat ∧ first.toNat < 0xF5)
    (outcome : continuation 3 (if first.toNat = 0xF0 then 0x90 else 0x80)
      (if first.toNat = 0xF4 then 0x8F else 0xBF) (first.toNat - 0xF0) rest =
        (.character character, remaining)) :
    encodeChar character ++ remaining = first :: rest := by
  obtain ⟨second, rest, rfl, secondLow, secondHigh, outcome⟩ := continuation_succ_eq outcome
  obtain ⟨third, rest, rfl, thirdLow, thirdHigh, outcome⟩ := continuation_succ_eq outcome
  obtain ⟨fourth, rest, rfl, fourthLow, fourthHigh, outcome⟩ := continuation_succ_eq outcome
  obtain ⟨value, untouched⟩ := continuation_zero_eq outcome
  -- The range of the second byte keeps overlong forms and numbers above `10FFFF` out.
  have secondRange : 0x80 ≤ second.toNat ∧ second.toNat ≤ 0xBF ∧
      (first.toNat = 0xF0 → 0x90 ≤ second.toNat) ∧
      (first.toNat = 0xF4 → second.toNat ≤ 0x8F) := by
    split at secondLow <;> split at secondHigh <;> omega
  rw [value, untouched, encodeChar_four (by omega) (by omega),
    ofNat_eq_of_toNat (show _ = first.toNat by omega),
    ofNat_eq_of_toNat (show _ = second.toNat by omega),
    ofNat_eq_of_toNat (show _ = third.toNat by omega),
    ofNat_eq_of_toNat (show _ = fourth.toNat by omega)]
  rfl

end Starts

/-- **A character that is read is encoded by the bytes that were read.** -/
theorem encodeChar_of_step {first : UInt8} {rest remaining : Bytes} {character : Char}
    (outcome : step first rest = (.character character, remaining)) :
    encodeChar character ++ remaining = first :: rest := by
  rw [step] at outcome
  cases announced : lead first with
  | none => simp [announced] at outcome
  | some found =>
      rw [announced] at outcome
      simp only [lead] at announced
      by_cases one : first.toNat < 0x80
      · rw [if_pos one] at announced
        obtain rfl := (Option.some.inj announced).symm
        obtain ⟨value, untouched⟩ := continuation_zero_eq outcome
        rw [value, untouched, encodeChar_one one, UInt8.ofNat_toNat, List.singleton_append]
      rw [if_neg one] at announced
      by_cases invalid : first.toNat < 0xC2
      · simp [invalid] at announced
      rw [if_neg invalid] at announced
      by_cases two : first.toNat < 0xE0
      · rw [if_pos two] at announced
        obtain rfl := (Option.some.inj announced).symm
        exact encodeChar_of_two (by omega) outcome
      rw [if_neg two] at announced
      by_cases three : first.toNat < 0xF0
      · rw [if_pos three] at announced
        obtain rfl := (Option.some.inj announced).symm
        exact encodeChar_of_three (by omega) outcome
      rw [if_neg three] at announced
      by_cases four : first.toNat < 0xF5
      · rw [if_pos four] at announced
        obtain rfl := (Option.some.inj announced).symm
        exact encodeChar_of_four (by omega) outcome
      · simp [four] at announced

theorem encodeChars_of_decodeChars? {bytes : Bytes} {characters : List Char}
    (decoded : decodeChars? bytes = some characters) : encodeChars characters = bytes := by
  induction bytes using decodeChars?.induct generalizing characters with
  | case1 =>
      rw [decodeChars?] at decoded
      obtain rfl := Option.some.inj decoded
      rfl
  | case2 first rest character remaining outcome inductionHypothesis =>
      rw [decodeChars?] at decoded
      split at decoded
      · rename_i value after otherOutcome
        rw [outcome] at otherOutcome
        simp only [Prod.mk.injEq, Step.character.injEq] at otherOutcome
        obtain ⟨rfl, rfl⟩ := otherOutcome
        obtain ⟨others, decodedOthers, rfl⟩ := Option.map_eq_some_iff.mp decoded
        have read := encodeChar_of_step outcome
        rw [← inductionHypothesis decodedOthers] at read
        exact read
      · cases decoded
  | case3 first rest remaining outcome =>
      rw [decodeChars?] at decoded
      split at decoded
      · rename_i value after otherOutcome
        rw [outcome] at otherOutcome
        simp at otherOutcome
      · cases decoded

/-- **The text of a byte string is the one that the bytes encode.** -/
theorem decode?_eq_some_iff {bytes : Bytes} {text : String} :
    decode? bytes = some text ↔ encode text = bytes := by
  constructor
  · intro decoded
    obtain ⟨characters, spelled, rfl⟩ := Option.map_eq_some_iff.mp decoded
    rw [encode, String.toList_ofList]
    exact encodeChars_of_decodeChars? spelled
  · rintro rfl
    exact decode?_encode text

theorem decode?_eq_none_iff {bytes : Bytes} :
    decode? bytes = none ↔ ∀ text, encode text ≠ bytes := by
  rw [Option.eq_none_iff_forall_ne_some]
  exact forall_congr' fun text => not_congr decode?_eq_some_iff

/-! ### Joined text and ASCII -/

theorem encodeChars_append (front back : List Char) :
    encodeChars (front ++ back) = encodeChars front ++ encodeChars back :=
  List.flatMap_append

theorem encode_append (front back : String) : encode (front ++ back) = encode front ++ encode back := by
  rw [encode, String.toList_append, encodeChars_append]
  rfl

theorem encode_eq_nil_iff {text : String} : encode text = [] ↔ text = "" := by
  constructor
  · intro empty
    have back := decode?_encode text
    rw [empty] at back
    simpa [decode?, decodeChars?, eq_comm] using back
  · rintro rfl
    rfl

theorem encodeChars_of_ascii {characters : List Char}
    (ascii : ∀ character ∈ characters, character.toNat < 0x80) :
    encodeChars characters = characters.map fun character => UInt8.ofNat character.toNat := by
  induction characters with
  | nil => rfl
  | cons character others inductionHypothesis =>
      have small := ascii character (by simp)
      have rest := inductionHypothesis fun other member => ascii other (by simp [member])
      simp only [encodeChars] at rest
      simp only [encodeChars, List.flatMap_cons, List.map_cons, rest]
      simp [encodeChar, small]

/-! ### Bytes of one character -/

theorem encodeChar_of_ascii {character : Char} (ascii : character.toNat < 0x80) :
    encodeChar character = [UInt8.ofNat character.toNat] := by
  unfold encodeChar
  exact if_pos ascii

/-- A character beyond ASCII has no byte of ASCII, neither at its start nor behind it. -/
theorem le_of_mem_encodeChar {character : Char} (wide : 0x80 ≤ character.toNat) {byte : UInt8}
    (member : byte ∈ encodeChar character) : 0x80 ≤ byte.toNat := by
  have range := codePoint_range character
  have high {code : Nat} (low : 0x80 ≤ code) (small : code < 256) :
      0x80 ≤ (UInt8.ofNat code).toNat := by
    rwa [toNat_ofNat_of_lt small]
  simp only [encodeChar, if_neg (Nat.not_lt.mpr wide)] at member
  split_ifs at member with two three <;>
    simp only [List.mem_cons, List.not_mem_nil, or_false] at member
  · rcases member with rfl | rfl <;> exact high (by omega) (by omega)
  · rcases member with rfl | rfl | rfl <;> exact high (by omega) (by omega)
  · rcases member with rfl | rfl | rfl | rfl <;> exact high (by omega) (by omega)

end MetricIntake.Utf8
