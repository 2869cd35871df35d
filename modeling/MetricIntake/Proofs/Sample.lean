import MetricIntake.Dispatch
import MetricIntake.Proofs.Number.Literal
import MetricIntake.Proofs.Observation
import MetricIntake.Proofs.Packet

/-!
Contract: samples, the items that a well-behaved sender sends.

Owns:
- the numbers of samples, which are integers of 64 bits and floating-point numbers, each with its
  text and the number that this text is read as;
- samples, their items and their lines;
- the observation of a sample's item and the packet of its line.

Does not own: what a pipeline makes of samples.
-/

set_option autoImplicit false

namespace MetricIntake

/-- A number that a sample can have. -/
inductive Quantity where
  | integer (number : Int64)
  | real (number : Binary64)
deriving DecidableEq, Repr

namespace Quantity

def value : Quantity → Value
  | .integer number => .signed number
  | .real number => .float number

def text : Quantity → String
  | .integer number => Decimal.intText number.toInt
  | .real number => Observation.floatText Observation.valuePlaces number

def read? (quantity : Quantity) : Option Binary64 :=
  Literal.binary64? (Utf8.encode quantity.text)

theorem valueText_value (quantity : Quantity) :
    Observation.valueText quantity.value = .ok quantity.text := by
  cases quantity <;> rfl

theorem exists_read_floatText (places : Nat) (number : Binary64) :
    ∃ read, Literal.binary64? (Utf8.encode (Observation.floatText places number)) = some read := by
  unfold Observation.floatText
  by_cases notANumber : number.isNaN = true
  · rw [if_pos notANumber]
    exact ⟨_, rfl⟩
  · rw [if_neg notANumber]
    by_cases infinite : number.isInfinite = true
    · rw [if_pos infinite]
      cases number.isNegative <;> exact ⟨_, rfl⟩
    · rw [if_neg infinite, Decimal.encode_fixedText]
      refine ⟨_, Literal.binary64?_spelling (Decimal.digits_lt_ten _) (Decimal.digits_ne_nil _) _ _
        ?_⟩
      split
      · simp
      · exact Decimal.lowestDigits_lt_ten _ _

theorem exists_read (quantity : Quantity) : ∃ number, quantity.read? = some number := by
  cases quantity with
  | integer number =>
      rw [read?, text, Decimal.encode_intText]
      exact ⟨_, Literal.binary64?_spelling (Decimal.digits_lt_ten _) (Decimal.digits_ne_nil _) _
        none (by simp)⟩
  | real number => exact exists_read_floatText Observation.valuePlaces number

def number (quantity : Quantity) : Binary64 :=
  quantity.read?.get (Option.isSome_iff_exists.mpr quantity.exists_read)

theorem read?_eq_number (quantity : Quantity) : quantity.read? = some quantity.number :=
  (Option.some_get _).symm

theorem isUnbroken_text (quantity : Quantity) :
    Packet.isUnbroken (Utf8.encode quantity.text) = true := by
  cases quantity with
  | integer number => exact Packet.isUnbroken_intText _
  | real number => exact Packet.isUnbroken_floatText _ _

theorem encode_text_ne_nil (quantity : Quantity) : Utf8.encode quantity.text ≠ [] := by
  intro empty
  have read := quantity.read?_eq_number
  have unread : Literal.binary64? [] = none := rfl
  rw [read?, empty, unread] at read
  simp at read

end Quantity

/-- A path with a number at a time. -/
structure Sample where
  path : String
  timestamp : UInt32
  quantity : Quantity
deriving DecidableEq, Repr

namespace Sample

def item (sample : Sample) : Value :=
  Value.metricItem (.text sample.path) (.signed (Int64.ofNat sample.timestamp.toNat))
    sample.quantity.value

def line (sample : Sample) : Bytes :=
  Utf8.encode (sample.path ++ " " ++ sample.quantity.text ++ " " ++
    Decimal.natText sample.timestamp.toNat)

def metric (sample : Sample) : Metric :=
  ⟨sample.line, sample.quantity.number, sample.timestamp⟩

/-- A path that is one field and meets the policy. -/
structure IsAcceptable (policy : KeyPolicy) (sample : Sample) : Prop where
  nonempty : sample.path ≠ ""
  unbroken : Packet.isUnbroken (Utf8.encode sample.path) = true
  named : policy.check sample.path = .ok ()

def observation (sample : Sample) : Observation :=
  ⟨sample.path, sample.quantity.text, Decimal.natText sample.timestamp.toNat⟩

theorem timestampText_timestamp (timestamp : UInt32) :
    Observation.timestampText (.signed (Int64.ofNat timestamp.toNat)) =
      .ok (Decimal.natText timestamp.toNat) := by
  have small := timestamp.toNat_lt
  have exact : (Int64.ofNat timestamp.toNat).toInt = (timestamp.toNat : Int) :=
    Int64.toInt_ofNat_of_lt (by omega)
  rw [Observation.timestampText, exact]
  rfl

theorem ofItem_item (sample : Sample) :
    Observation.ofItem sample.item = .ok sample.observation :=
  Observation.ofItem_eq_ok_iff.mpr
    ⟨_, _, rfl, timestampText_timestamp sample.timestamp, sample.quantity.valueText_value⟩

theorem observation_line (sample : Sample) : sample.observation.line = sample.line := by
  have space : Utf8.encode " " = [Observation.space] := rfl
  simp only [line, Utf8.encode_append, space, Observation.line, observation, List.append_assoc,
    List.cons_append, List.nil_append]

/-- **The line of an acceptable sample is a packet** of its path, number and time. -/
theorem read_line {policy : KeyPolicy} {sample : Sample}
    (acceptable : sample.IsAcceptable policy) :
    Packet.read policy sample.line =
      .ok ⟨sample.path, sample.quantity.number, sample.timestamp⟩ := by
  have bounded := sample.timestamp.toNat_lt
  have timestampRead : Literal.natural? Packet.greatestTimestamp
      (Utf8.encode (Decimal.natText sample.timestamp.toNat)) = some sample.timestamp.toNat :=
    Literal.natural?_encode_natText (Nat.le_of_lt_succ bounded)
  rw [← observation_line]
  refine Packet.read_eq_ok_iff.mpr ⟨_, _, _, Observation.fields_line_of_isUnbroken
    acceptable.unbroken ?_ sample.quantity.isUnbroken_text sample.quantity.encode_text_ne_nil
    (Packet.isUnbroken_natText _) ?_, Utf8.decode?_encode sample.path, acceptable.named,
    sample.quantity.read?_eq_number, ?_⟩
  · exact fun empty => acceptable.nonempty (Utf8.encode_eq_nil_iff.mp empty)
  · show Utf8.encode (Decimal.natText sample.timestamp.toNat) ≠ []
    intro empty
    rw [empty] at timestampRead
    simp [Literal.natural?, Literal.digits?, Literal.dropPlus] at timestampRead
  · show (Literal.natural? Packet.greatestTimestamp
      (Utf8.encode (Decimal.natText sample.timestamp.toNat))).map UInt32.ofNat = _
    rw [timestampRead, Option.map_some, UInt32.ofNat_toNat]

end Sample

end MetricIntake
