import MetricIntake.Proofs.Pipeline.ValueAgreement

/-!
Contract: the timestamp of an item and the time that its line is read as.

Owns:
- the times that the texts of integers and of floating-point timestamps are read as;
- the condition under which an item is held to its timestamp alone;
- that a numeric timestamp is delivered as its nearest second or refused, and never wrapped.

Does not own: timestamps that are texts, and the order of the times of a key.

## Where the half goes

A floating-point timestamp is rounded before it is compared with the greatest time, so some numbers
beyond the greatest time still pass. The greatest time is odd. A number just between it and the next
second is therefore rounded up, and the numbers that pass are those below that half.
-/

set_option autoImplicit false

namespace MetricIntake

/-- The values that are integers, of any of the three kinds. -/
inductive Value.IsInteger : Value → Int → Prop where
  | signed (number : Int64) : IsInteger (.signed number) number.toInt
  | unsigned (number : UInt64) : IsInteger (.unsigned number) number.toNat
  | bigInteger (number : Int) : IsInteger (.bigInteger number) number

namespace Observation

open Packet (greatestTimestamp)

/-! ### Texts of timestamps -/

/-- What the timestamp of an item is written as, and read as. -/
structure Reads (timestamp : Value) (text : String) (time : Option Nat) : Prop where
  formatted : timestampText timestamp = .ok text
  nonempty : Utf8.encode text ≠ []
  unbroken : Packet.isUnbroken (Utf8.encode text) = true
  read : Literal.natural? greatestTimestamp (Utf8.encode text) = time

/-- An integer is read as itself if it is a time at all. -/
theorem reads_of_isInteger {timestamp : Value} {number : Int}
    (integer : timestamp.IsInteger number) :
    Reads timestamp (Decimal.intText number)
      (if 0 ≤ number ∧ number ≤ greatestTimestamp then some number.toNat else none) where
  formatted := by cases integer <;> rfl
  nonempty := by
    rw [Decimal.encode_intText]
    exact Decimal.spelling_ne_nil _ (Decimal.digits_ne_nil _) _
  unbroken := Packet.isUnbroken_intText number
  read := by
    rw [Decimal.encode_intText, Literal.natural?_spelling]
    by_cases nonneg : 0 ≤ number
    · have same : number.natAbs = number.toNat := by omega
      have within : number.toNat ≤ greatestTimestamp ↔ number ≤ greatestTimestamp := by omega
      have sign : decide (number < 0) = false := decide_eq_false (not_lt.mpr nonneg)
      simp only [sign, nonneg, true_and, same, within]
    · have sign : decide (number < 0) = true := decide_eq_true (not_le.mp nonneg)
      simp only [sign, nonneg, Bool.true_eq_false, false_and, if_false]

/-- A finite timestamp is written as its whole units. -/
theorem encode_floatText {number : Binary64} (finite : number.isFinite = true) :
    Utf8.encode (floatText timestampPlaces number) =
      Decimal.spelling number.isNegative (Decimal.digits (FixedPoint.units 0 number)) none := by
  have whole : FixedPoint.units 0 number / Decimal.power 0 = FixedPoint.units 0 number :=
    Nat.div_one _
  rw [timestampPlaces, floatText_of_isFinite finite, Decimal.encode_fixedText, whole, if_pos rfl]

/-- The names of the numbers that are not finite. -/
theorem floatText_named {number : Binary64} (notFinite : ¬number.isFinite = true) (places : Nat) :
    floatText places number = "NaN" ∨ floatText places number = "-Inf" ∨
      floatText places number = "+Inf" := by
  by_cases notANumber : number.isNaN = true
  · exact .inl (floatText_of_isNaN notANumber places)
  · have infinite : number.isInfinite = true := by
      simpa [Binary64.isFinite, notANumber] using notFinite
    rw [floatText_of_isInfinite infinite]
    cases number.isNegative with
    | true => exact .inr (.inl rfl)
    | false => exact .inr (.inr rfl)

/-- A floating-point number is read as its units if it is finite, has no sign, and these are a time.
The names of other numbers are no times, and neither is a zero with a sign. -/
theorem reads_of_float (number : Binary64) :
    Reads (.float number) (floatText timestampPlaces number)
      (if number.isFinite = true ∧ number.isNegative = false ∧
          FixedPoint.units 0 number ≤ greatestTimestamp then some (FixedPoint.units 0 number)
        else none) where
  formatted := rfl
  nonempty := by
    by_cases finite : number.isFinite = true
    · rw [encode_floatText finite]
      exact Decimal.spelling_ne_nil _ (Decimal.digits_ne_nil _) _
    · rcases floatText_named finite timestampPlaces with named | named | named <;> rw [named] <;>
        decide +kernel
  unbroken := Packet.isUnbroken_floatText _ _
  read := by
    by_cases finite : number.isFinite = true
    · rw [encode_floatText finite, Literal.natural?_spelling]
      simp only [finite, true_and]
    · rw [if_neg (fun passes => finite passes.1)]
      rcases floatText_named finite timestampPlaces with named | named | named <;> rw [named] <;>
        rfl

/-- A number without a sign is rounded to a time exactly if it is below the half behind the greatest
one. -/
theorem units_le_greatest_iff {number : Binary64} (unsigned : number.isNegative = false) :
    FixedPoint.units 0 number ≤ greatestTimestamp ↔ number.toRat < 4294967295.5 := by
  have rounds := FixedPoint.units_rounds 0 number
  have half : ((greatestTimestamp : ℕ) : ℚ) + 1 / 2 = 4294967295.5 := by
    norm_num [greatestTimestamp]
  rw [pow_zero, mul_one] at rounds
  rw [rounds.le_iff_lt_half (by decide), half, Binary64.toRat, unsigned, Binary64.signed,
    if_neg Bool.false_ne_true]

/-- The line of an item whose path is accepted and whose value is a number is a packet exactly if its
timestamp is read as a time. -/
theorem read_line_of_quantity {policy : KeyPolicy} (observation : Observation) {value : Value}
    {number : Binary64} (somePath : observation.path ≠ "")
    (path : Packet.isUnbroken (Utf8.encode observation.path) = true)
    (accepted : policy.check observation.path = .ok ()) (quantity : value.isQuantity = true)
    (spelled : valueText value = .ok observation.value)
    (isNumber : Literal.binary64? (Utf8.encode observation.value) = some number)
    {timestamp : Value} {time : Option Nat} (reads : Reads timestamp observation.timestamp time) :
    Packet.read policy observation.line =
      time.elim (.error ⟨observation.path, .timestamp (Utf8.encode observation.timestamp)⟩)
        fun seconds => .ok ⟨observation.path, number, UInt32.ofNat seconds⟩ := by
  have fields := fields_line_of_quantity somePath path quantity spelled isNumber
  rw [Packet.fields_of_isUnbroken reads.unbroken, if_neg reads.nonempty] at fields
  rw [Packet.read, fields]
  simp only [Packet.ofFields, Utf8.decode?_encode, accepted, isNumber, reads.read]
  cases time <;> rfl

end Observation

namespace Pipeline

open Observation Packet

/-- What a numeric timestamp settles for an item that is held to its timestamp alone. The timestamp
passes under a condition, and is then read as a time of which more is known. -/
structure Settles (config : Config) (item : Value) (observation : Observation) (passes : Prop)
    (isTime : Nat → Prop) : Prop where
  observed : Observation.ofItem item = .ok observation
  /-- The line is a packet exactly under the condition. -/
  passes_iff : (∃ packet, Packet.read config.policy observation.line = .ok packet) ↔ passes
  /-- It is then the packet of the path and the time. -/
  time : ∀ packet, Packet.read config.policy observation.line = .ok packet →
    packet.key = observation.path ∧ isTime packet.timestamp.toNat
  /-- The item is then passed on with this time, or was late for the order of its key. -/
  delivered : passes → ∀ pipeline : Pipeline, ∃ packet : Packet, isTime packet.timestamp.toNat ∧
    ((pipeline.processItem config item).1 =
        .dispatched ⟨observation.line, packet.value, packet.timestamp⟩ ∨
      ∃ error, (pipeline.processItem config item).1 =
        .outOfOrder observation.line observation.path error)
  /-- Otherwise the item is refused for its timestamp. -/
  refused : ¬passes → ∀ pipeline : Pipeline, (pipeline.processItem config item).1 =
    .rejected observation.line
      ⟨observation.path, .timestamp (Utf8.encode observation.timestamp)⟩
  /-- The message of a refusal has the text of the timestamp. -/
  told : (PacketFault.timestamp (Utf8.encode observation.timestamp)).message =
    "timestamp is not a valid unix time: " ++ observation.timestamp

section Settling

variable {config : Config} {item : Value} {observation : Observation} {passes : Prop}
  {isTime : Nat → Prop}

theorem message_timestamp (text : String) :
    (PacketFault.timestamp (Utf8.encode text)).message =
      "timestamp is not a valid unix time: " ++ text :=
  congrArg ("timestamp is not a valid unix time: " ++ ·) (Utf8.lossy_encode text)

/-- An item whose line is a packet is settled by the time of the packet. -/
theorem settles_of_packet {packet : Packet} (observed : Observation.ofItem item = .ok observation)
    (read : Packet.read config.policy observation.line = .ok packet)
    (sameKey : packet.key = observation.path) (holds : passes)
    (known : isTime packet.timestamp.toNat) :
    Settles config item observation passes isTime where
  observed := observed
  passes_iff := iff_of_true ⟨packet, read⟩ holds
  time other otherRead := by
    obtain rfl := Except.ok.inj (read.symm.trans otherRead)
    exact ⟨sameKey, known⟩
  delivered _ pipeline := by
    refine ⟨packet, known, ?_⟩
    rw [processItem_eq, judge_of_read config observed read, ← sameKey]
    split
    · split
      · exact .inr ⟨_, rfl⟩
      · exact .inl rfl
    · exact .inl rfl
  refused fails := absurd holds fails
  told := message_timestamp observation.timestamp

/-- An item whose line is refused for the timestamp is settled by that. -/
theorem settles_of_refusal (observed : Observation.ofItem item = .ok observation)
    (unread : Packet.read config.policy observation.line =
      .error ⟨observation.path, .timestamp (Utf8.encode observation.timestamp)⟩)
    (fails : ¬passes) : Settles config item observation passes isTime where
  observed := observed
  passes_iff := by
    refine iff_of_false ?_ fails
    rintro ⟨packet, read⟩
    rw [unread] at read
    cases read
  time packet read := by
    rw [unread] at read
    cases read
  delivered holds := absurd holds fails
  refused _ pipeline := by
    rw [processItem_eq]
    simp only [judge, observed, unread]
  told := message_timestamp observation.timestamp

/-- A timestamp that is read under a condition settles the items with an accepted path and a
number. -/
theorem exists_settles [Decidable passes] {path : String} {timestamp value : Value} {text : String}
    {seconds : Nat} (somePath : path ≠ "")
    (unbroken : Packet.isUnbroken (Utf8.encode path) = true)
    (accepted : config.policy.check path = .ok ()) (quantity : value.isQuantity = true)
    (reads : Reads timestamp text (if passes then some seconds else none))
    (known : passes → seconds ≤ greatestTimestamp ∧ isTime seconds) :
    ∃ observation, observation.path = path ∧ timestampText timestamp = .ok observation.timestamp ∧
      Settles config (Value.metricItem (.text path) timestamp value) observation passes isTime := by
  obtain ⟨valueText, spelled⟩ : ∃ text, Observation.valueText value = .ok text := by
    cases value <;> first | exact ⟨_, rfl⟩ | simp [Value.isQuantity] at quantity
  obtain ⟨number, isNumber⟩ := exists_read_of_isQuantity quantity spelled
  have observed : Observation.ofItem (Value.metricItem (.text path) timestamp value) =
      .ok ⟨path, valueText, text⟩ :=
    ofItem_eq_ok_iff.mpr ⟨timestamp, value, rfl, reads.formatted, spelled⟩
  have read := read_line_of_quantity ⟨path, valueText, text⟩ somePath unbroken accepted quantity
    spelled isNumber reads
  refine ⟨⟨path, valueText, text⟩, rfl, reads.formatted, ?_⟩
  by_cases holds : passes
  · obtain ⟨within, isTheTime⟩ := known holds
    have small : seconds < 4294967296 := Nat.lt_succ_of_le within
    have whole : (UInt32.ofNat seconds).toNat = seconds := UInt32.toNat_ofNat_of_lt small
    rw [if_pos holds] at read
    exact settles_of_packet observed read rfl holds (whole.symm ▸ isTheTime)
  · rw [if_neg holds] at read
    exact settles_of_refusal observed read holds

end Settling

/-- **A numeric timestamp is delivered as its nearest second or refused, and never wrapped.** An item
whose path is one field and accepted, and whose value is a number, is held to its timestamp alone. An
integer passes if it is between zero and the greatest time, and is delivered as itself. A
floating-point number passes if it is finite, has no sign, and is below the half behind the greatest
time, and is delivered as the nearest integer, a half as the even one. Every other numeric timestamp
is refused, and the refusal has its text. -/
theorem settles_of_numeric {config : Config} {path : String} {value : Value}
    (somePath : path ≠ "") (unbroken : Packet.isUnbroken (Utf8.encode path) = true)
    (accepted : config.policy.check path = .ok ()) (quantity : value.isQuantity = true) :
    (∀ timestamp number, timestamp.IsInteger number →
      ∃ observation, observation.path = path ∧
        timestampText timestamp = .ok observation.timestamp ∧
        Settles config (Value.metricItem (.text path) timestamp value) observation
          (0 ≤ number ∧ number ≤ 4294967295) (fun seconds => (seconds : Int) = number)) ∧
    ∀ number : Binary64,
      ∃ observation, observation.path = path ∧
        timestampText (.float number) = .ok observation.timestamp ∧
        Settles config (Value.metricItem (.text path) (.float number) value) observation
          (number.isFinite = true ∧ number.isNegative = false ∧ number.toRat < 4294967295.5)
          (Decimal.Rounds number.toRat) := by
  constructor
  · intro timestamp number integer
    refine exists_settles somePath unbroken accepted quantity (reads_of_isInteger integer) ?_
    rintro ⟨nonneg, within⟩
    exact ⟨Int.toNat_le.mpr within, Int.toNat_of_nonneg nonneg⟩
  · intro number
    have reads := reads_of_float number
    have condition : (number.isFinite = true ∧ number.isNegative = false ∧
        FixedPoint.units 0 number ≤ greatestTimestamp) ↔
          (number.isFinite = true ∧ number.isNegative = false ∧ number.toRat < 4294967295.5) :=
      and_congr_right fun _ => and_congr_right units_le_greatest_iff
    simp only [condition] at reads
    refine exists_settles somePath unbroken accepted quantity reads ?_
    rintro ⟨finite, unsigned, below⟩
    refine ⟨(units_le_greatest_iff unsigned).mpr below, ?_⟩
    have rounds := FixedPoint.units_rounds 0 number
    rw [pow_zero, mul_one] at rounds
    rwa [Binary64.toRat, unsigned, Binary64.signed, if_neg Bool.false_ne_true]

/-- A zero with a sign and the half behind the greatest time are refused. The greatest time passes, as
an integer of any size. -/
theorem settles_of_numeric_edges :
    let outcome (timestamp : Value) (pipeline : Pipeline) := (pipeline.processItem Config.default
      (Value.metricItem (.text "a") timestamp (.signed 1))).1
    (∀ pipeline, outcome (.float ⟨0x8000000000000000⟩) pipeline =
      .rejected (Utf8.encode "a 1 -0") ⟨"a", .timestamp (Utf8.encode "-0")⟩) ∧
    (∀ pipeline, outcome (.float ⟨0x41EFFFFFFFF00000⟩) pipeline =
      .rejected (Utf8.encode "a 1 4294967296") ⟨"a", .timestamp (Utf8.encode "4294967296")⟩) ∧
    ∃ packet, Packet.read Config.default.policy (Utf8.encode "a 1 4294967295") = .ok packet ∧
      (packet.timestamp.toNat : Int) = 4294967295 := by
  intro outcome
  obtain ⟨integers, floats⟩ := @settles_of_numeric Config.default "a" (.signed 1) (by decide)
    (by decide +kernel) (by decide +kernel) rfl
  refine ⟨?_, ?_, ?_⟩
  · obtain ⟨observation, -, -, settles⟩ := floats ⟨0x8000000000000000⟩
    have observed : Observation.ofItem
        (Value.metricItem (.text "a") (.float ⟨0x8000000000000000⟩) (.signed 1)) =
          .ok ⟨"a", "1", "-0"⟩ := by decide +kernel
    obtain rfl := Except.ok.inj (settles.observed.symm.trans observed)
    exact settles.refused fun passes => absurd passes.2.1 (by decide +kernel)
  · obtain ⟨observation, -, -, settles⟩ := floats ⟨0x41EFFFFFFFF00000⟩
    have observed : Observation.ofItem
        (Value.metricItem (.text "a") (.float ⟨0x41EFFFFFFFF00000⟩) (.signed 1)) =
          .ok ⟨"a", "1", "4294967296"⟩ := by decide +kernel
    obtain rfl := Except.ok.inj (settles.observed.symm.trans observed)
    refine settles.refused ?_
    rintro ⟨-, unsigned, below⟩
    exact absurd ((units_le_greatest_iff unsigned).mpr below) (by decide +kernel)
  · obtain ⟨observation, -, -, settles⟩ := integers _ _ (.bigInteger 4294967295)
    have observed : Observation.ofItem
        (Value.metricItem (.text "a") (.bigInteger 4294967295) (.signed 1)) =
          .ok ⟨"a", "1", "4294967295"⟩ := by decide +kernel
    obtain rfl := Except.ok.inj (settles.observed.symm.trans observed)
    obtain ⟨packet, read⟩ := settles.passes_iff.mpr (by decide)
    exact ⟨packet, read, (settles.time packet read).2⟩

end Pipeline

end MetricIntake
