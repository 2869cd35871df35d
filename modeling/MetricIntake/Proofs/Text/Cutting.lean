import MetricIntake.Proofs.Text.Fields
import MetricIntake.Proofs.Text.Utf8

/-!
Contract: encoded text that is cut at ASCII bytes is text that was cut at ASCII characters.

Owns:
- the characters that separate, which are those whose only byte does;
- the pieces and words of encoded text, which are the encoded pieces and words of the text.

Does not own: which bytes separate.

## Why no cut lands inside a character

A character of ASCII is one byte, and no byte of any other character is one of ASCII. A byte that
separates is therefore always a whole character, and all bytes of a character that does not separate
stay in one piece.
-/

set_option autoImplicit false

namespace MetricIntake.Utf8

/-- A character separates when it is the ASCII character of a byte that does. -/
def separates (isSeparator : UInt8 → Bool) (character : Char) : Bool :=
  decide (character.toNat < 0x80) && isSeparator (UInt8.ofNat character.toNat)

section Cutting

variable {isSeparator : UInt8 → Bool}

theorem encodeChar_of_separates {character : Char}
    (cut : separates isSeparator character = true) :
    ∃ byte, encodeChar character = [byte] ∧ isSeparator byte = true := by
  rw [separates, Bool.and_eq_true, decide_eq_true_eq] at cut
  exact ⟨_, encodeChar_of_ascii cut.1, cut.2⟩

/-- A character that does not separate has no byte that does. -/
theorem not_separator_of_mem_encodeChar
    (ascii : ∀ byte, isSeparator byte = true → byte.toNat < 0x80) {character : Char}
    (inside : separates isSeparator character = false) :
    ∀ byte ∈ encodeChar character, isSeparator byte = false := by
  intro byte member
  by_cases small : character.toNat < 0x80
  · rw [separates, decide_eq_true small, Bool.true_and] at inside
    rw [encodeChar_of_ascii small, List.mem_singleton] at member
    rw [member]
    exact inside
  · have high := le_of_mem_encodeChar (Nat.not_lt.mp small) member
    rw [← Bool.not_eq_true]
    exact fun cut => absurd (ascii byte cut) (Nat.not_lt.mpr high)

theorem pieces_encodeChars (ascii : ∀ byte, isSeparator byte = true → byte.toNat < 0x80)
    (characters : List Char) :
    Fields.pieces isSeparator (encodeChars characters) =
      (Fields.pieces (separates isSeparator) characters).map encodeChars := by
  induction characters with
  | nil => rfl
  | cons character rest inductionHypothesis =>
      have bytes : encodeChars (character :: rest) = encodeChar character ++ encodeChars rest :=
        List.flatMap_cons
      rw [bytes]
      by_cases cut : separates isSeparator character = true
      · obtain ⟨byte, alone, separating⟩ := encodeChar_of_separates cut
        rw [alone, List.singleton_append, Fields.pieces, if_pos separating, Fields.pieces,
          if_pos cut, inductionHypothesis]
        rfl
      · have inside : separates isSeparator character = false := Bool.not_eq_true _ ▸ cut
        obtain ⟨first, others, shape, grown⟩ :=
          Fields.pieces_cons_of_not_separator inside rest
        obtain ⟨whole, after, wholeShape, longer⟩ := Fields.pieces_append_of_unseparated
          (not_separator_of_mem_encodeChar ascii inside) (encodeChars rest)
        rw [inductionHypothesis, shape, List.map_cons] at wholeShape
        obtain ⟨rfl, rfl⟩ := List.cons.inj wholeShape
        rw [longer, grown]
        rfl

/-- **The words of encoded text are the encoded words of the text.** -/
theorem words_encode (ascii : ∀ byte, isSeparator byte = true → byte.toNat < 0x80)
    (text : String) :
    Fields.words isSeparator (encode text) =
      (Fields.words (separates isSeparator) text.toList).map encodeChars := by
  have sameEmptiness (characters : List Char) :
      (encodeChars characters).isEmpty = characters.isEmpty := by
    have empty : encode (String.ofList characters) = [] ↔ String.ofList characters = "" :=
      encode_eq_nil_iff
    rw [encode, String.toList_ofList] at empty
    rw [Bool.eq_iff_iff, List.isEmpty_iff, List.isEmpty_iff, empty]
    simp
  unfold encode Fields.words
  rw [pieces_encodeChars ascii, List.filter_map]
  apply congrArg (List.map encodeChars)
  apply List.filter_congr
  intro piece _
  rw [Function.comp_apply, sameEmptiness]

end Cutting

end MetricIntake.Utf8
