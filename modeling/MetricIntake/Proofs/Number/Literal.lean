import MetricIntake.Number.Literal
import MetricIntake.Proofs.Number.Decimal

/-!
Contract: numbers that were written in base ten are read back.

Owns:
- natural numbers as unsigned literals with a bound;
- integers and fixed-point texts as floating-point literals, which come to the decimal that the
  digits spell.

Does not own: which number of 64 bits is nearest to a decimal.
-/

set_option autoImplicit false

namespace MetricIntake.Literal

open Decimal

/-! ### Digits -/

theorem isDigit_digitByte {digit : Nat} (small : digit < 10) : isDigit (digitByte digit) = true := by
  rw [isDigit, toNat_digitByte small]
  simp only [Bool.and_eq_true, decide_eq_true_eq]
  omega

theorem digitValue_digitByte {digit : Nat} (small : digit < 10) :
    digitValue (digitByte digit) = digit := by
  rw [digitValue, toNat_digitByte small]
  omega

section Spelled

variable {spelled : List Nat} (small : ∀ digit ∈ spelled, digit < 10)

include small

theorem all_isDigit : (spelled.map digitByte).all isDigit = true := by
  rw [List.all_map, List.all_eq_true]
  intro digit member
  exact isDigit_digitByte (small digit member)

theorem digitsValue_digitBytes : digitsValue (spelled.map digitByte) = ofDigits spelled := by
  have same : spelled.map (digitValue ∘ digitByte) = spelled.map id :=
    List.map_congr_left fun digit member => digitValue_digitByte (small digit member)
  rw [digitsValue, List.map_map, same, List.map_id]

theorem takeWhile_digitBytes (rest : Bytes) :
    (spelled.map digitByte ++ rest).takeWhile isDigit =
      spelled.map digitByte ++ rest.takeWhile isDigit :=
  List.takeWhile_append_of_pos fun byte member =>
    List.all_eq_true.mp (all_isDigit small) byte member

theorem dropWhile_digitBytes (rest : Bytes) :
    (spelled.map digitByte ++ rest).dropWhile isDigit = rest.dropWhile isDigit :=
  List.dropWhile_append_of_pos fun byte member =>
    List.all_eq_true.mp (all_isDigit small) byte member

end Spelled

theorem digitByte_ne {digit : Nat} (small : digit < 10) {byte : UInt8} (below : byte.toNat < 48) :
    digitByte digit ≠ byte := by
  intro same
  have value := toNat_digitByte small
  rw [same] at value
  omega

/-! ### Natural numbers -/

/-- Digits are a natural number up to the bound, and no natural number behind a minus sign. -/
theorem natural?_spelling (greatest : Nat) (negative : Bool) (number : Nat) :
    natural? greatest (spelling negative (digits number) none) =
      if negative = false ∧ number ≤ greatest then some number else none := by
  have plain : spelling negative (digits number) none =
      (if negative then [minus] else []) ++ (digits number).map digitByte := List.append_nil _
  rw [natural?, plain]
  cases negative with
  | true =>
      have refused (rest : Bytes) : digits? (dropPlus (minus :: rest)) = none := rfl
      rw [if_pos rfl, List.cons_append, refused, Option.filter_none, if_neg (by simp)]
  | false =>
      obtain ⟨first, others, shape⟩ := List.exists_cons_of_ne_nil (digits_ne_nil number)
      have small := digits_lt_ten number
      have firstSmall : first < 10 := small first (by simp [shape])
      have unsigned : dropPlus ((digits number).map digitByte) = (digits number).map digitByte := by
        rw [shape, List.map_cons, dropPlus, if_neg (digitByte_ne firstSmall (by decide))]
      have read : digits? ((digits number).map digitByte) = some number := by
        rw [digits?, all_isDigit small, digitsValue_digitBytes small, ofDigits_digits]
        simp [shape]
      rw [if_neg Bool.false_ne_true, List.nil_append, unsigned, read]
      simp [Option.filter]

theorem natural?_encode_natText {greatest number : Nat} (within : number ≤ greatest) :
    natural? greatest (Utf8.encode (natText number)) = some number := by
  have plain : (digits number).map digitByte = spelling false (digits number) none :=
    (List.append_nil _).symm
  rw [encode_natText, plain, natural?_spelling, if_pos ⟨rfl, within⟩]

/-! ### Floating-point numbers -/

theorem named?_digitByte_cons {digit : Nat} (small : digit < 10) (negative : Bool) (rest : Bytes) :
    named? negative (digitByte digit :: rest) = none := by
  have value := toNat_digitByte small
  have kept : lowerCase (digitByte digit) = digitByte digit := by
    rw [lowerCase, if_neg (by omega)]
  have differs (letter : UInt8) (above : 58 ≤ letter.toNat) : digitByte digit ≠ letter := by
    intro same
    rw [same] at value
    omega
  have infinity : asciiBytes "inf" = [105, 110, 102] := rfl
  have infinityInFull : asciiBytes "infinity" = [105, 110, 102, 105, 110, 105, 116, 121] := rfl
  have notANumber : asciiBytes "nan" = [110, 97, 110] := rfl
  rw [named?]
  simp only [List.map_cons, kept, infinity, infinityInFull, notANumber, List.cons.injEq,
    differs 105 (by decide), differs 110 (by decide), false_and, or_self, if_false]

/-- Digits with further digits after a point, if there is one, are read as the decimal that they
spell. -/
theorem decimal?_digits {whole : List Nat} (wholeSmall : ∀ digit ∈ whole, digit < 10)
    (nonempty : whole ≠ []) (negative : Bool) (places : Option (List Nat))
    (placesSmall : ∀ digit ∈ places.getD [], digit < 10) :
    decimal? negative (spelling false whole places) =
      some (Binary64.ofDecimal negative (ofDigits (whole ++ places.getD []))
        (-((places.getD []).length : Int))) := by
  have someDigits : (whole.map digitByte).isEmpty = false := by simp [nonempty]
  cases places with
  | none =>
      have front := takeWhile_digitBytes wholeSmall []
      have back := dropWhile_digitBytes wholeSmall []
      simp only [List.append_nil, List.takeWhile_nil, List.dropWhile_nil] at front back
      simp only [decimal?, spelling, Bool.false_eq_true, if_false, List.nil_append, List.append_nil,
        front, back, someDigits, List.takeWhile_nil, Bool.false_and, exponent?, Option.map_some,
        digitsValue_digitBytes wholeSmall, Option.getD_none, List.length_nil]
      rfl
  | some digits =>
      have front := takeWhile_digitBytes wholeSmall (46 :: digits.map digitByte)
      have back := dropWhile_digitBytes wholeSmall (46 :: digits.map digitByte)
      have placesFront := takeWhile_digitBytes placesSmall []
      have placesBack := dropWhile_digitBytes placesSmall []
      have stop : isDigit 46 = false := rfl
      simp only [Option.getD_some, List.append_nil, List.takeWhile_nil, List.dropWhile_nil,
        List.takeWhile_cons, List.dropWhile_cons, stop, Bool.false_eq_true, if_false] at *
      have both : ∀ digit ∈ whole ++ digits, digit < 10 := by
        intro digit member
        rcases List.mem_append.mp member with inWhole | inPlaces
        · exact wholeSmall digit inWhole
        · exact placesSmall digit inPlaces
      have joined := digitsValue_digitBytes both
      rw [List.map_append] at joined
      simp only [decimal?, spelling, Bool.false_eq_true, if_false, List.nil_append, front, back,
        point, if_true, placesFront, placesBack, someDigits, Bool.false_and, exponent?,
        Option.map_some, joined, List.length_map]
      simp

/-- A sign and digits, with further digits after a point if there is one, are read as the decimal
that they spell. -/
theorem binary64?_spelling {whole : List Nat} (wholeSmall : ∀ digit ∈ whole, digit < 10)
    (nonempty : whole ≠ []) (negative : Bool) (places : Option (List Nat))
    (placesSmall : ∀ digit ∈ places.getD [], digit < 10) :
    binary64? (spelling negative whole places) =
      some (Binary64.ofDecimal negative (ofDigits (whole ++ places.getD []))
        (-((places.getD []).length : Int))) := by
  obtain ⟨first, others, shape⟩ := List.exists_cons_of_ne_nil nonempty
  have firstSmall : first < 10 := wholeSmall first (by simp [shape])
  have starts : ∃ rest, spelling false whole places = digitByte first :: rest :=
    ⟨_, by simp only [spelling, shape]; rfl⟩
  obtain ⟨rest, starts⟩ := starts
  have split : splitSign (spelling negative whole places) =
      (negative, spelling false whole places) := by
    cases negative with
    | true => rfl
    | false =>
        rw [starts, splitSign, if_neg (digitByte_ne firstSmall (by decide)),
          if_neg (digitByte_ne firstSmall (by decide))]
  rw [binary64?, split]
  simp only [decimal?_digits wholeSmall nonempty negative places placesSmall]
  rw [starts, named?_digitByte_cons firstSmall]

end MetricIntake.Literal
