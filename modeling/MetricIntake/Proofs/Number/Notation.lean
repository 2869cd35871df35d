import MetricIntake.Number.Literal
import MetricIntake.Proofs.Number.Nearest

/-!
Contract: the notation of numbers, apart from any way to read it.

Owns:
- the literals of natural numbers with a bound, and the number that each denotes;
- the literals of floating-point numbers, and the number that each denotes;
- that the readers accept these literals and no others, and read what they denote.

Does not own: where a literal stands in a line.
-/

set_option autoImplicit false

namespace MetricIntake.Literal

/-! ### The notation -/

/-- One or more digits. -/
structure IsNumeral (digits : Bytes) : Prop where
  nonempty : digits ≠ []
  digits : ∀ byte ∈ digits, isDigit byte = true

/-- A sign that may be missing, and whether it is a minus. -/
inductive IsSign : Bytes → Bool → Prop where
  | absent : IsSign [] false
  | positive : IsSign [plus] false
  | negative : IsSign [minus] true

/-- A natural number of at most `greatest`: digits, with a plus before them or not. -/
inductive DenotesNatural (greatest : Nat) : Bytes → Nat → Prop where
  | bare {digits : Bytes} (numeral : IsNumeral digits) (within : digitsValue digits ≤ greatest) :
      DenotesNatural greatest digits (digitsValue digits)
  | signed {digits : Bytes} (numeral : IsNumeral digits) (within : digitsValue digits ≤ greatest) :
      DenotesNatural greatest (plus :: digits) (digitsValue digits)

/-- The digits of a decimal, with at most one point before, among or after them: those before the
point and those after it. -/
inductive IsMantissa : Bytes → Bytes → Bytes → Prop where
  | whole {digits : Bytes} (numeral : IsNumeral digits) : IsMantissa digits digits []
  | point {whole places : Bytes} (numeral : IsNumeral (whole ++ places)) :
      IsMantissa (whole ++ point :: places) whole places

/-- The exponent of a decimal, which may be missing: the letter in either case, a sign and digits. -/
inductive IsExponent : Bytes → Int → Prop where
  | none : IsExponent [] 0
  | written {letter : UInt8} {sign digits : Bytes} {negative : Bool}
      (letters : letter = 101 ∨ letter = 69) (signed : IsSign sign negative)
      (numeral : IsNumeral digits) :
      IsExponent (letter :: (sign ++ digits))
        (if negative then -(digitsValue digits : Int) else digitsValue digits)

/-- An unsigned decimal and its exact value. -/
inductive IsDecimal : Bytes → ℚ → Prop where
  | mk {front back whole places : Bytes} {exponent : Int} (mantissa : IsMantissa front whole places)
      (scaled : IsExponent back exponent) :
      IsDecimal (front ++ back) (digitsValue (whole ++ places) * 10 ^ (exponent - places.length))

/-- The names of the infinity, in any case. -/
def NamesInfinity (name : Bytes) : Prop :=
  name.map lowerCase = asciiBytes "inf" ∨ name.map lowerCase = asciiBytes "infinity"

/-- The name of what is no number, in any case. -/
def NamesNaN (name : Bytes) : Prop := name.map lowerCase = asciiBytes "nan"

/-- A floating-point number: a sign that may be missing, then a name or a decimal. A decimal denotes
the number nearest to its exact value. The sign is the one that is written, also at zero and where
the name is that of no number. -/
inductive Denotes : Bytes → Binary64 → Prop where
  | infinity {sign name : Bytes} {negative : Bool} (signed : IsSign sign negative)
      (named : NamesInfinity name) : Denotes (sign ++ name) (.infinity negative)
  | notANumber {sign name : Bytes} {negative : Bool} (signed : IsSign sign negative)
      (named : NamesNaN name) : Denotes (sign ++ name) (.quietNaN negative)
  | decimal {sign body : Bytes} {negative : Bool} {exact : ℚ} {number : Binary64}
      (signed : IsSign sign negative) (decimal : IsDecimal body exact)
      (signs : number.isNegative = negative)
      (nearest : Binary64.IsNearest (Binary64.signed negative exact) number) :
      Denotes (sign ++ body) number

/-! ### Natural numbers -/

theorem isNumeral_iff {literal : Bytes} :
    IsNumeral literal ↔ ¬(literal.isEmpty || !literal.all isDigit) = true := by
  simp only [Bool.or_eq_true, not_or, List.isEmpty_iff, Bool.not_eq_true', Bool.not_eq_false,
    List.all_eq_true]
  exact ⟨fun ⟨nonempty, digits⟩ => ⟨nonempty, digits⟩, fun ⟨nonempty, digits⟩ => ⟨nonempty, digits⟩⟩

theorem digits?_eq_some_iff {literal : Bytes} {number : Nat} :
    digits? literal = some number ↔ IsNumeral literal ∧ digitsValue literal = number := by
  rw [isNumeral_iff, digits?]
  split_ifs with missing
  · simp [missing]
  · simp [missing]

theorem not_isDigit_plus : ¬isDigit plus = true := by decide

/-- Digits do not start with a byte that is no digit. -/
theorem IsNumeral.head_ne {first byte : UInt8} {rest : Bytes} (numeral : IsNumeral (first :: rest))
    (other : ¬isDigit byte = true) : first ≠ byte := by
  rintro rfl
  exact other (numeral.digits first List.mem_cons_self)

theorem IsNumeral.dropPlus_eq {digits : Bytes} (numeral : IsNumeral digits) :
    dropPlus digits = digits := by
  cases digits with
  | nil => rfl
  | cons first rest => rw [dropPlus, if_neg (numeral.head_ne not_isDigit_plus)]

/-- **The reader of natural numbers reads what literals denote**, and nothing else. -/
theorem natural?_eq_some_iff {greatest number : Nat} {literal : Bytes} :
    natural? greatest literal = some number ↔ DenotesNatural greatest literal number := by
  rw [natural?, Option.filter_eq_some_iff, digits?_eq_some_iff, decide_eq_true_iff]
  constructor
  · rintro ⟨⟨numeral, rfl⟩, within⟩
    cases literal with
    | nil => exact absurd rfl numeral.nonempty
    | cons first rest =>
        by_cases signed : first = plus
        · subst signed
          have dropped : dropPlus (plus :: rest) = rest := by rw [dropPlus, if_pos rfl]
          rw [dropped] at numeral within ⊢
          exact .signed numeral within
        · have kept : dropPlus (first :: rest) = first :: rest := if_neg signed
          rw [kept] at numeral within ⊢
          exact .bare numeral within
  · intro denotes
    cases denotes with
    | bare numeral within =>
        rw [numeral.dropPlus_eq]
        exact ⟨⟨numeral, rfl⟩, within⟩
    | signed numeral within => exact ⟨⟨numeral, rfl⟩, within⟩

theorem natural?_eq_none_iff {greatest : Nat} {literal : Bytes} :
    natural? greatest literal = none ↔ ∀ number, ¬DenotesNatural greatest literal number := by
  rw [Option.eq_none_iff_forall_ne_some]
  exact forall_congr' fun number => not_congr natural?_eq_some_iff

/-! ### Signs -/

theorem isSign_of_splitSign {literal body : Bytes} {negative : Bool}
    (split : splitSign literal = (negative, body)) :
    ∃ sign, IsSign sign negative ∧ literal = sign ++ body := by
  cases literal with
  | nil =>
      cases split
      exact ⟨[], .absent, rfl⟩
  | cons first rest =>
      rw [splitSign] at split
      split_ifs at split with isMinus isPlus
      · cases split
        exact ⟨[minus], .negative, by rw [isMinus]; rfl⟩
      · cases split
        exact ⟨[plus], .positive, by rw [isPlus]; rfl⟩
      · cases split
        exact ⟨[], .absent, rfl⟩

/-- A body that does not start with a sign is what is left after the sign. -/
theorem IsSign.splitSign_eq {sign body : Bytes} {negative : Bool} (signed : IsSign sign negative)
    (bare : ∀ first ∈ body.head?, first ≠ minus ∧ first ≠ plus) :
    splitSign (sign ++ body) = (negative, body) := by
  cases signed with
  | absent =>
      cases body with
      | nil => rfl
      | cons first rest =>
          obtain ⟨notMinus, notPlus⟩ := bare first rfl
          rw [List.nil_append, splitSign, if_neg notMinus, if_neg notPlus]
  | positive => rfl
  | negative => rfl

theorem IsNumeral.bare {digits : Bytes} (numeral : IsNumeral digits) :
    ∀ first ∈ digits.head?, first ≠ minus ∧ first ≠ plus := by
  intro first found
  have digit := numeral.digits first (List.mem_of_mem_head? found)
  constructor
  · rintro rfl
    exact absurd digit (by decide)
  · rintro rfl
    exact absurd digit (by decide)

/-! ### Exponents -/

/-- What holds of all 256 codes holds of every byte. -/
theorem forall_byte (property : UInt8 → Prop)
    (all : ∀ code : Fin 256, property (UInt8.ofNat code)) (byte : UInt8) : property byte := by
  have found := all ⟨byte.toNat, byte.toNat_lt⟩
  rwa [UInt8.ofNat_toNat] at found

theorem lowerCase_eq_e_iff (letter : UInt8) :
    lowerCase letter = 101 ↔ letter = 101 ∨ letter = 69 :=
  forall_byte (fun letter => lowerCase letter = 101 ↔ letter = 101 ∨ letter = 69)
    (by decide +kernel) letter

theorem exponent?_eq_some_iff {literal : Bytes} {exponent : Int} :
    exponent? literal = some exponent ↔ IsExponent literal exponent := by
  constructor
  · intro read
    cases literal with
    | nil =>
        cases read
        exact .none
    | cons letter rest =>
        rw [exponent?] at read
        split_ifs at read with letters
        obtain ⟨⟨negative, digits⟩, split⟩ : ∃ parts, splitSign rest = parts := ⟨_, rfl⟩
        obtain ⟨sign, signed, rfl⟩ := isSign_of_splitSign split
        rw [split] at read
        obtain ⟨magnitude, spelled, rfl⟩ := Option.map_eq_some_iff.mp read
        obtain ⟨value, found, ⟨⟩⟩ := Option.bind_eq_some_iff.mp spelled
        obtain ⟨numeral, rfl⟩ := digits?_eq_some_iff.mp found
        exact .written ((lowerCase_eq_e_iff letter).mp letters) signed numeral
  · intro spelled
    cases spelled with
    | none => rfl
    | @written letter sign digits negative letters signed numeral =>
        rw [exponent?, if_pos ((lowerCase_eq_e_iff letter).mpr letters)]
        have read := digits?_eq_some_iff.mpr ⟨numeral, rfl⟩
        simp only [signed.splitSign_eq numeral.bare, read]
        rfl

/-! ### Decimals -/

/-- Every literal is digits in front of something that does not start with a digit. -/
theorem exists_digits (literal : Bytes) :
    ∃ digits rest, literal = digits ++ rest ∧ (∀ byte ∈ digits, isDigit byte = true) ∧
      ∀ first ∈ rest.head?, ¬isDigit first = true := by
  refine ⟨literal.takeWhile isDigit, literal.dropWhile isDigit,
    List.takeWhile_append_dropWhile.symm, List.all_eq_true.mp List.all_takeWhile, ?_⟩
  intro first found
  have other := List.head?_dropWhile_not isDigit literal
  rw [Option.mem_def.mp found] at other
  simpa using other

theorem span_digits {digits rest : Bytes} (spelled : ∀ byte ∈ digits, isDigit byte = true)
    (stop : ∀ first ∈ rest.head?, ¬isDigit first = true) :
    (digits ++ rest).takeWhile isDigit = digits ∧ (digits ++ rest).dropWhile isDigit = rest := by
  rw [List.takeWhile_append_of_pos spelled, List.dropWhile_append_of_pos spelled]
  cases rest with
  | nil => simp
  | cons first rest =>
      have other := stop first rfl
      rw [List.takeWhile_cons_of_neg other, List.dropWhile_cons_of_neg other, List.append_nil]
      exact ⟨rfl, rfl⟩

theorem isNumeral_append_iff {whole places : Bytes} :
    IsNumeral (whole ++ places) ↔ ¬(whole.isEmpty && places.isEmpty) = true ∧
      (∀ byte ∈ whole, isDigit byte = true) ∧ ∀ byte ∈ places, isDigit byte = true := by
  constructor
  · rintro ⟨nonempty, spelled⟩
    exact ⟨by simpa using nonempty, List.forall_mem_append.mp spelled⟩
  · rintro ⟨nonempty, spelled⟩
    exact ⟨by simpa using nonempty, List.forall_mem_append.mpr spelled⟩

/-- An exponent starts with its letter, if with anything. -/
theorem IsExponent.stop {literal : Bytes} {exponent : Int} (scaled : IsExponent literal exponent) :
    ∀ first ∈ literal.head?, ¬isDigit first = true ∧ first ≠ point := by
  intro first found
  cases scaled with
  | none => cases found
  | written letters signed numeral =>
      obtain rfl := Option.some.inj found
      rcases letters with rfl | rfl <;> decide

section Shapes

variable {negative : Bool} {whole rest : Bytes} (spelled : ∀ byte ∈ whole, isDigit byte = true)

include spelled

theorem decimal?_whole (stop : ∀ first ∈ rest.head?, ¬isDigit first = true)
    (pointless : ∀ first ∈ rest.head?, first ≠ point) :
    decimal? negative (whole ++ rest) =
      if whole.isEmpty then none
      else (exponent? rest).map (Binary64.ofDecimal negative (digitsValue whole)) := by
  obtain ⟨taken, dropped⟩ := span_digits spelled stop
  simp only [decimal?, taken, dropped]
  cases rest with
  | nil => simp
  | cons first others => simp [pointless first rfl]

theorem decimal?_point {places : Bytes} (placesSpelled : ∀ byte ∈ places, isDigit byte = true)
    (stop : ∀ first ∈ rest.head?, ¬isDigit first = true) :
    decimal? negative (whole ++ point :: (places ++ rest)) =
      if whole.isEmpty && places.isEmpty then none
      else (exponent? rest).map fun exponent =>
        Binary64.ofDecimal negative (digitsValue (whole ++ places)) (exponent - places.length) := by
  have pointStop : ∀ first ∈ (point :: (places ++ rest)).head?, ¬isDigit first = true := by
    intro first found
    obtain rfl := Option.some.inj found
    decide
  obtain ⟨taken, dropped⟩ := span_digits spelled pointStop
  obtain ⟨placesTaken, placesDropped⟩ := span_digits placesSpelled stop
  simp only [decimal?, taken, dropped, if_pos, placesTaken, placesDropped]

end Shapes

/-- The reader of decimals takes a mantissa and an exponent apart. -/
theorem decimal?_eq_some_iff {negative : Bool} {literal : Bytes} {number : Binary64} :
    decimal? negative literal = some number ↔
      ∃ front back whole places exponent, literal = front ++ back ∧
        IsMantissa front whole places ∧ IsExponent back exponent ∧
        number = Binary64.ofDecimal negative (digitsValue (whole ++ places))
          (exponent - places.length) := by
  constructor
  · intro read
    obtain ⟨whole, rest, rfl, spelled, stop⟩ := exists_digits literal
    by_cases pointless : ∀ first ∈ rest.head?, first ≠ point
    · rw [decimal?_whole spelled stop pointless] at read
      split_ifs at read with missing
      obtain ⟨exponent, scaled, rfl⟩ := Option.map_eq_some_iff.mp read
      have numeral : IsNumeral whole := ⟨by simpa using missing, spelled⟩
      exact ⟨whole, rest, whole, [], exponent, rfl, .whole numeral,
        exponent?_eq_some_iff.mp scaled, by simp⟩
    · push Not at pointless
      obtain ⟨_, found, rfl⟩ := pointless
      obtain ⟨after, rfl⟩ := List.head?_eq_some_iff.mp found
      obtain ⟨places, back, rfl, placesSpelled, backStop⟩ := exists_digits after
      rw [decimal?_point spelled placesSpelled backStop] at read
      split_ifs at read with missing
      obtain ⟨exponent, scaled, rfl⟩ := Option.map_eq_some_iff.mp read
      have numeral := isNumeral_append_iff.mpr ⟨missing, spelled, placesSpelled⟩
      exact ⟨whole ++ point :: places, back, whole, places, exponent, by simp, .point numeral,
        exponent?_eq_some_iff.mp scaled, rfl⟩
  · rintro ⟨front, back, whole, places, exponent, rfl, mantissa, scaled, rfl⟩
    have read := exponent?_eq_some_iff.mpr scaled
    have stop : ∀ first ∈ back.head?, ¬isDigit first = true := fun first found =>
      (scaled.stop first found).1
    cases mantissa with
    | whole numeral =>
        rw [decimal?_whole numeral.digits stop fun first found => (scaled.stop first found).2,
          if_neg (by simpa using numeral.nonempty), read]
        simp
    | point numeral =>
        obtain ⟨someDigits, spelled, placesSpelled⟩ := isNumeral_append_iff.mp numeral
        rw [List.append_assoc, List.cons_append, decimal?_point spelled placesSpelled stop,
          if_neg someDigits, read]
        rfl

/-! ### Names and signs -/

theorem asciiBytes_inf : asciiBytes "inf" = [105, 110, 102] := rfl

theorem asciiBytes_infinity :
    asciiBytes "infinity" = [105, 110, 102, 105, 110, 105, 116, 121] := rfl

theorem asciiBytes_nan : asciiBytes "nan" = [110, 97, 110] := rfl

/-- The bytes that a name can start with. -/
def startsName (first : UInt8) : Bool := lowerCase first == 105 || lowerCase first == 110

/-- The bytes that a decimal can start with. -/
def startsDecimal (first : UInt8) : Bool := isDigit first || first == point

theorem unsigned_of_starts (first : UInt8) :
    (startsName first || startsDecimal first) = true → first ≠ minus ∧ first ≠ plus :=
  forall_byte (fun first => (startsName first || startsDecimal first) = true →
    first ≠ minus ∧ first ≠ plus) (by decide +kernel) first

theorem not_startsName_of_startsDecimal (first : UInt8) :
    startsDecimal first = true → startsName first = false :=
  forall_byte (fun first => startsDecimal first = true → startsName first = false)
    (by decide +kernel) first

theorem startsName_of_lowerCase_eq {name : Bytes} {first : UInt8} {others : Bytes}
    (spelled : name.map lowerCase = first :: others) (letters : first = 105 ∨ first = 110) :
    ∃ letter ∈ name.head?, startsName letter = true := by
  cases name with
  | nil => cases spelled
  | cons letter rest =>
      refine ⟨letter, rfl, ?_⟩
      have same := (List.cons.inj spelled).1
      rcases letters with rfl | rfl <;> simp [startsName, same]

theorem NamesInfinity.starts {name : Bytes} (named : NamesInfinity name) :
    ∃ letter ∈ name.head?, startsName letter = true := by
  rcases named with short | long
  · exact startsName_of_lowerCase_eq short (.inl rfl)
  · exact startsName_of_lowerCase_eq long (.inl rfl)

theorem NamesNaN.starts {name : Bytes} (named : NamesNaN name) :
    ∃ letter ∈ name.head?, startsName letter = true :=
  startsName_of_lowerCase_eq named (.inr rfl)

theorem NamesNaN.not_namesInfinity {name : Bytes} (named : NamesNaN name) :
    ¬NamesInfinity name := by
  rw [NamesNaN, asciiBytes_nan] at named
  rw [NamesInfinity, named, asciiBytes_inf, asciiBytes_infinity]
  decide

theorem IsDecimal.starts {body : Bytes} {exact : ℚ} (decimal : IsDecimal body exact) :
    ∃ first ∈ body.head?, startsDecimal first = true := by
  cases decimal with
  | @mk front back whole places exponent mantissa scaled =>
      cases mantissa with
      | whole numeral =>
          cases front with
          | nil => exact absurd rfl numeral.nonempty
          | cons first rest =>
              exact ⟨first, rfl, by simp [startsDecimal, numeral.digits first List.mem_cons_self]⟩
      | point numeral =>
          cases whole with
          | nil => exact ⟨Literal.point, rfl, rfl⟩
          | cons first rest =>
              exact ⟨first, rfl, by simp [startsDecimal, numeral.digits first List.mem_cons_self]⟩

theorem unsigned_of_starts_head {body : Bytes} {starts : UInt8 → Bool}
    (head : ∃ first ∈ body.head?, starts first = true)
    (among : ∀ first, starts first = true → (startsName first || startsDecimal first) = true) :
    ∀ first ∈ body.head?, first ≠ minus ∧ first ≠ plus := by
  obtain ⟨first, found, started⟩ := head
  intro other otherFound
  obtain rfl := Option.some.inj (found.symm.trans otherFound)
  exact unsigned_of_starts _ (among _ started)

theorem named?_eq_some_iff {negative : Bool} {name : Bytes} {number : Binary64} :
    named? negative name = some number ↔
      (NamesInfinity name ∧ number = .infinity negative) ∨
        (NamesNaN name ∧ number = .quietNaN negative) := by
  constructor
  · intro read
    rw [named?] at read
    split_ifs at read with infinite notANumber
    · exact .inl ⟨infinite, (Option.some.inj read).symm⟩
    · exact .inr ⟨notANumber, (Option.some.inj read).symm⟩
  · rintro (⟨infinite, rfl⟩ | ⟨notANumber, rfl⟩)
    · exact if_pos infinite
    · exact (if_neg notANumber.not_namesInfinity).trans (if_pos notANumber)

theorem named?_eq_none_of_starts {negative : Bool} {body : Bytes}
    (head : ∃ first ∈ body.head?, startsDecimal first = true) : named? negative body = none := by
  obtain ⟨first, found, started⟩ := head
  have unnamed (name : ∃ letter ∈ body.head?, startsName letter = true) : False := by
    obtain ⟨letter, letterFound, letterStarts⟩ := name
    obtain rfl := Option.some.inj (found.symm.trans letterFound)
    rw [not_startsName_of_startsDecimal _ started] at letterStarts
    cases letterStarts
  rw [Option.eq_none_iff_forall_not_mem]
  intro number read
  rcases named?_eq_some_iff.mp read with ⟨infinite, -⟩ | ⟨notANumber, -⟩
  · exact unnamed infinite.starts
  · exact unnamed notANumber.starts

/-! ### Floating-point numbers -/

/-- The number that is read from a decimal is the one that the decimal denotes. -/
theorem decimal?_denotes {negative : Bool} {body : Bytes} {number : Binary64}
    (read : decimal? negative body = some number) :
    ∃ exact, IsDecimal body exact ∧ number.isNegative = negative ∧
      Binary64.IsNearest (Binary64.signed negative exact) number := by
  obtain ⟨front, back, whole, places, exponent, rfl, mantissa, scaled, rfl⟩ :=
    decimal?_eq_some_iff.mp read
  exact ⟨_, .mk mantissa scaled, Binary64.isNegative_ofDecimal _ _ _,
    Binary64.isNearest_ofDecimal _ _ _⟩

theorem IsDecimal.read {body : Bytes} {exact : ℚ} (decimal : IsDecimal body exact)
    (negative : Bool) :
    ∃ number : Binary64, decimal? negative body = some number ∧ number.isNegative = negative ∧
      Binary64.IsNearest (Binary64.signed negative exact) number := by
  cases decimal with
  | mk mantissa scaled =>
      exact ⟨_, decimal?_eq_some_iff.mpr ⟨_, _, _, _, _, rfl, mantissa, scaled, rfl⟩,
        Binary64.isNegative_ofDecimal _ _ _, Binary64.isNearest_ofDecimal _ _ _⟩

/-- **The reader of floating-point numbers reads what literals denote**, and nothing else. -/
theorem binary64?_eq_some_iff {literal : Bytes} {number : Binary64} :
    binary64? literal = some number ↔ Denotes literal number := by
  constructor
  · intro read
    obtain ⟨⟨negative, body⟩, split⟩ : ∃ parts, splitSign literal = parts := ⟨_, rfl⟩
    obtain ⟨sign, signed, rfl⟩ := isSign_of_splitSign split
    simp only [binary64?, split] at read
    cases named : named? negative body with
    | some found =>
        rw [named] at read
        obtain rfl := Option.some.inj read
        rcases named?_eq_some_iff.mp named with ⟨infinite, rfl⟩ | ⟨notANumber, rfl⟩
        · exact .infinity signed infinite
        · exact .notANumber signed notANumber
    | none =>
        rw [named] at read
        obtain ⟨exact, decimal, signs, nearest⟩ := decimal?_denotes read
        exact .decimal signed decimal signs nearest
  · intro denotes
    cases denotes with
    | @infinity sign name negative signed named =>
        have bare := unsigned_of_starts_head named.starts (by simp +contextual)
        simp only [binary64?, signed.splitSign_eq bare,
          named?_eq_some_iff.mpr (.inl ⟨named, rfl⟩)]
    | @notANumber sign name negative signed named =>
        have bare := unsigned_of_starts_head named.starts (by simp +contextual)
        simp only [binary64?, signed.splitSign_eq bare,
          named?_eq_some_iff.mpr (.inr ⟨named, rfl⟩)]
    | @decimal sign body negative exact number signed decimal signs nearest =>
        have bare := unsigned_of_starts_head decimal.starts (by simp +contextual)
        obtain ⟨found, read, foundSigns, foundNearest⟩ := decimal.read negative
        have same := Binary64.IsNearest.unique (foundSigns.trans signs.symm) foundNearest nearest
        simp only [binary64?, signed.splitSign_eq bare, named?_eq_none_of_starts decimal.starts, read,
          same]

/-- The sign of what is no number is that of its literal. -/
example : binary64? (asciiBytes "-nan") = some ⟨0xFFF8000000000000⟩ ∧
    binary64? (asciiBytes "+NaN") = some ⟨0x7FF8000000000000⟩ := by
  decide +kernel

theorem binary64?_eq_none_iff {literal : Bytes} :
    binary64? literal = none ↔ ∀ number, ¬Denotes literal number := by
  rw [Option.eq_none_iff_forall_ne_some]
  exact forall_congr' fun number => not_congr binary64?_eq_some_iff

end MetricIntake.Literal
