import MetricIntake.Observation
import MetricIntake.Packet.Reading
import MetricIntake.Proofs.Number.Decimal
import MetricIntake.Proofs.Outcome
import MetricIntake.Proofs.Text.Fields

/-!
Contract: what the line of an observation is made of.

Owns:
- the items that are observations;
- the parts of an item that can hold a blank: texts alone, no written number does;
- the fields of a line, which are those of its three texts in turn.

Does not own: what becomes of a line.
-/

set_option autoImplicit false

namespace MetricIntake

/-! ### Blanks -/

def Packet.isUnbroken (bytes : Bytes) : Bool :=
  bytes.all fun byte => !Packet.isBlank byte

/-- Whether a scalar of an item holds no blank. Only text can hold one. -/
def Value.isUnbroken : Value → Bool
  | .text content => Packet.isUnbroken (Utf8.encode content)
  | _ => true

namespace Packet

theorem isUnbroken_iff {bytes : Bytes} :
    isUnbroken bytes = true ↔ ∀ byte ∈ bytes, isBlank byte = false := by
  simp [isUnbroken]

theorem isUnbroken_append (front back : Bytes) :
    isUnbroken (front ++ back) = (isUnbroken front && isUnbroken back) :=
  List.all_append

/-- The fields of a text without blanks: itself, unless it is empty. -/
theorem fields_of_isUnbroken {bytes : Bytes} (unbroken : isUnbroken bytes = true) :
    fields bytes = if bytes = [] then [] else [bytes] :=
  Fields.words_of_unseparated (isUnbroken_iff.mp unbroken)

theorem isBlank_of_graphic {byte : UInt8} (above : 32 < byte.toNat) : isBlank byte = false := by
  have differs (blank : UInt8) (below : blank.toNat ≤ 32) : (byte == blank) = false := by
    rw [beq_eq_false_iff_ne]
    rintro rfl
    omega
  simp [isBlank, differs 32 (by decide), differs 9 (by decide), differs 10 (by decide),
    differs 12 (by decide), differs 13 (by decide)]

theorem isUnbroken_digitBytes {spelled : List Nat} (small : ∀ digit ∈ spelled, digit < 10) :
    isUnbroken (spelled.map Decimal.digitByte) = true := by
  rw [isUnbroken_iff]
  intro byte member
  obtain ⟨digit, digitMember, rfl⟩ := List.mem_map.mp member
  apply isBlank_of_graphic
  rw [Decimal.toNat_digitByte (small digit digitMember)]
  omega

theorem isUnbroken_spelling (negative : Bool) {whole : List Nat}
    (wholeSmall : ∀ digit ∈ whole, digit < 10) (places : Option (List Nat))
    (placesSmall : ∀ digit ∈ places.getD [], digit < 10) :
    isUnbroken (Decimal.spelling negative whole places) = true := by
  have sign : isUnbroken (if negative then [45] else []) = true := by
    cases negative <;> rfl
  unfold Decimal.spelling
  rw [isUnbroken_append, isUnbroken_append, sign, isUnbroken_digitBytes wholeSmall]
  cases places with
  | none => rfl
  | some digits => exact isUnbroken_digitBytes placesSmall

theorem isUnbroken_intText (number : Int) :
    isUnbroken (Utf8.encode (Decimal.intText number)) = true := by
  rw [Decimal.encode_intText]
  exact isUnbroken_spelling _ (Decimal.digits_lt_ten _) none (by simp)

theorem isUnbroken_natText (number : Nat) :
    isUnbroken (Utf8.encode (Decimal.natText number)) = true :=
  isUnbroken_intText number

theorem isUnbroken_floatText (places : Nat) (number : Binary64) :
    isUnbroken (Utf8.encode (Observation.floatText places number)) = true := by
  rw [Observation.floatText]
  split
  · rfl
  · split
    · split <;> rfl
    · rw [Decimal.encode_fixedText]
      refine isUnbroken_spelling _ (Decimal.digits_lt_ten _) _ ?_
      split
      · simp
      · exact Decimal.lowestDigits_lt_ten _ _

end Packet

namespace Observation

/-! ### The texts of an item -/

/-- A value without blanks has a text without blanks, and the other way round. -/
theorem isUnbroken_valueText {value : Value} {text : String} (outcome : valueText value = .ok text) :
    value.isUnbroken = Packet.isUnbroken (Utf8.encode text) := by
  cases value <;> simp only [valueText, Except.ok.injEq, reduceCtorEq] at outcome <;> subst outcome
  · rfl
  · exact (Packet.isUnbroken_intText _).symm
  · exact (Packet.isUnbroken_natText _).symm
  · exact (Packet.isUnbroken_floatText _ _).symm

/-- A timestamp without blanks has a text without blanks, and the other way round. -/
theorem isUnbroken_timestampText {timestamp : Value} {text : String}
    (outcome : timestampText timestamp = .ok text) :
    timestamp.isUnbroken = Packet.isUnbroken (Utf8.encode text) := by
  cases timestamp <;> simp only [timestampText, Except.ok.injEq, reduceCtorEq] at outcome <;>
    subst outcome
  · rfl
  · exact (Packet.isUnbroken_intText _).symm
  · exact (Packet.isUnbroken_natText _).symm
  · exact (Packet.isUnbroken_intText _).symm
  · exact (Packet.isUnbroken_floatText _ _).symm

theorem pair_eq_ok_iff {part : ItemPart} {value first second : Value} :
    pair part value = .ok (first, second) ↔ value = .tuple [first, second] := by
  constructor
  · intro outcome
    unfold pair at outcome
    split at outcome <;> simp_all
  · rintro rfl
    rfl

theorem pathText_eq_ok_iff {value : Value} {path : String} :
    pathText value = .ok path ↔ value = .text path := by
  cases value <;> simp [pathText]

/-- **The items that are observations** are those with a text beside a pair of a timestamp and a
value that have texts. -/
theorem ofItem_eq_ok_iff {item : Value} {observation : Observation} :
    ofItem item = .ok observation ↔
      ∃ timestamp value, item = Value.metricItem (.text observation.path) timestamp value ∧
        timestampText timestamp = .ok observation.timestamp ∧
        valueText value = .ok observation.value := by
  simp only [ofItem, bind_eq_ok_iff, Prod.exists, pair_eq_ok_iff, pathText_eq_ok_iff]
  constructor
  · rintro ⟨pathValue, data, rfl, path, rfl, timestamp, value, rfl, valueContent, valueOk,
      timestampContent, timestampOk, outcome⟩
    simp only [pure, Except.pure, Except.ok.injEq] at outcome
    subst outcome
    exact ⟨timestamp, value, rfl, timestampOk, valueOk⟩
  · rintro ⟨timestamp, value, rfl, timestampOk, valueOk⟩
    exact ⟨_, _, rfl, _, rfl, timestamp, value, rfl, _, valueOk, _, timestampOk, rfl⟩

/-! ### The fields of a line -/

theorem fields_line (observation : Observation) :
    Packet.fields observation.line =
      Packet.fields (Utf8.encode observation.path) ++
        Packet.fields (Utf8.encode observation.value) ++
          Packet.fields (Utf8.encode observation.timestamp) := by
  have blank : Packet.isBlank space = true := rfl
  rw [Packet.fields, line, List.append_assoc]
  simp only [Packet.fields, List.cons_append, Fields.words_append_separator blank,
    List.append_assoc]

/-- Texts without blanks, none of them empty, are the fields of their line. -/
theorem fields_line_of_isUnbroken {observation : Observation}
    (path : Packet.isUnbroken (Utf8.encode observation.path) = true)
    (somePath : Utf8.encode observation.path ≠ [])
    (value : Packet.isUnbroken (Utf8.encode observation.value) = true)
    (someValue : Utf8.encode observation.value ≠ [])
    (timestamp : Packet.isUnbroken (Utf8.encode observation.timestamp) = true)
    (someTimestamp : Utf8.encode observation.timestamp ≠ []) :
    Packet.fields observation.line =
      [Utf8.encode observation.path, Utf8.encode observation.value,
        Utf8.encode observation.timestamp] := by
  rw [fields_line, Packet.fields_of_isUnbroken path, Packet.fields_of_isUnbroken value,
    Packet.fields_of_isUnbroken timestamp, if_neg somePath, if_neg someValue,
    if_neg someTimestamp]
  rfl

end Observation

end MetricIntake
