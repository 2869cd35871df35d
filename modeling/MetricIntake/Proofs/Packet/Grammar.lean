import MetricIntake.Proofs.Number.Notation
import MetricIntake.Proofs.Packet
import MetricIntake.Proofs.Packet.Policy

/-!
Contract: the grammar of lines that are packets, and the error of every other line.

Owns:
- the separators of fields and the grammar of a packet line, apart from any way to read it;
- the six ways in which a line fails the grammar, in the order in which they count;
- that reading accepts the lines of the grammar as what they spell, and refuses every other line for
  the first way in which it fails.

Does not own: what a policy demands of a key, nor the notation of numbers.
-/

set_option autoImplicit false

namespace MetricIntake.Packet

/-! ### The grammar -/

/-- The bytes between fields: the space, the tabulator, the line feed, the form feed and the carriage
return. -/
def separators : Bytes := [0x20, 0x09, 0x0A, 0x0C, 0x0D]

def separates (byte : UInt8) : Bool := decide (byte ∈ separators)

/-- A line of three fields: the key as text, a number, and a time in seconds. -/
inductive Spells (policy : KeyPolicy) (line : Bytes) : Packet → Prop where
  | mk {valueField timestampField : Bytes} {key : String} {value : Binary64} {seconds : Nat}
      (fields : Fields.Runs separates line [Utf8.encode key, valueField, timestampField])
      (meets : policy.Meets key) (number : Literal.Denotes valueField value)
      (time : Literal.DenotesNatural greatestTimestamp timestampField seconds) :
      Spells policy line ⟨key, value, UInt32.ofNat seconds⟩

/-- The first way in which a line fails the grammar. Each constructor but the first says that all
earlier ways do not apply. -/
inductive Fails (policy : KeyPolicy) (line : Bytes) : PacketError → Prop where
  | fieldCount {runs : List Bytes} (fields : Fields.Runs separates line runs)
      (wrong : runs.length ≠ 3) : Fails policy line ⟨"", .fieldCount runs.length⟩
  | encoding {keyField valueField timestampField : Bytes}
      (fields : Fields.Runs separates line [keyField, valueField, timestampField])
      (notText : ∀ text, Utf8.encode text ≠ keyField) : Fails policy line ⟨"", .encoding⟩
  | key {valueField timestampField : Bytes} {key : String} {fault : KeyFault}
      (fields : Fields.Runs separates line [Utf8.encode key, valueField, timestampField])
      (faulty : policy.Faulty key fault) : Fails policy line ⟨key, .key fault⟩
  | value {valueField timestampField : Bytes} {key : String}
      (fields : Fields.Runs separates line [Utf8.encode key, valueField, timestampField])
      (meets : policy.Meets key)
      (notNumber : ∀ value, ¬Literal.Denotes valueField value) :
      Fails policy line ⟨key, .value valueField⟩
  | timestamp {valueField timestampField : Bytes} {key : String} {value : Binary64}
      (fields : Fields.Runs separates line [Utf8.encode key, valueField, timestampField])
      (meets : policy.Meets key) (number : Literal.Denotes valueField value)
      (notTime : ∀ seconds, ¬Literal.DenotesNatural greatestTimestamp timestampField seconds) :
      Fails policy line ⟨key, .timestamp timestampField⟩

/-! ### Reading -/

variable {policy : KeyPolicy} {line : Bytes}

/-- The reader cuts at the separators of the grammar and nowhere else. -/
theorem isBlank_eq_separates : isBlank = separates := by
  funext byte
  simp only [isBlank, separates, separators, List.mem_cons, List.not_mem_nil, or_false,
    Bool.decide_or, Bool.or_assoc, beq_eq_decide]

theorem fields_eq_iff {runs : List Bytes} :
    fields line = runs ↔ Fields.Runs separates line runs := by
  rw [fields, isBlank_eq_separates]
  exact Fields.words_eq_iff

theorem read_eq_ok_iff_spells {packet : Packet} :
    read policy line = .ok packet ↔ Spells policy line packet := by
  rw [read_eq_ok_iff]
  constructor
  · rintro ⟨keyField, valueField, timestampField, shape, decoded, accepted, value, timestamp⟩
    obtain ⟨key, number, time⟩ := packet
    obtain ⟨seconds, read, rfl⟩ := Option.map_eq_some_iff.mp timestamp
    have encoded := Utf8.decode?_eq_some_iff.mp decoded
    subst encoded
    exact .mk (fields_eq_iff.mp shape) (KeyPolicy.check_eq_ok_iff.mp accepted)
      (Literal.binary64?_eq_some_iff.mp value) (Literal.natural?_eq_some_iff.mp read)
  · intro spelled
    cases spelled with
    | mk fields meets number time =>
        exact ⟨_, _, _, fields_eq_iff.mpr fields, Utf8.decode?_encode _,
          KeyPolicy.check_eq_ok_iff.mpr meets, Literal.binary64?_eq_some_iff.mpr number,
          Option.map_eq_some_iff.mpr ⟨_, Literal.natural?_eq_some_iff.mpr time, rfl⟩⟩

/-- What three fields are refused for. -/
theorem fails_of_ofFields {keyField valueField timestampField : Bytes} {error : PacketError}
    (shape : Fields.Runs separates line [keyField, valueField, timestampField])
    (refused : ofFields policy keyField valueField timestampField = .error error) :
    Fails policy line error := by
  unfold ofFields at refused
  cases decoded : Utf8.decode? keyField with
  | none =>
      rw [decoded] at refused
      obtain rfl := Except.error.inj refused
      exact .encoding shape (Utf8.decode?_eq_none_iff.mp decoded)
  | some key =>
      rw [decoded] at refused
      obtain rfl := Utf8.decode?_eq_some_iff.mp decoded
      cases verdict : policy.check key with
      | error fault =>
          simp only [verdict] at refused
          obtain rfl := Except.error.inj refused
          exact .key shape (KeyPolicy.check_eq_error_iff.mp verdict)
      | ok _ =>
          have meets := KeyPolicy.check_eq_ok_iff.mp verdict
          simp only [verdict] at refused
          cases value : Literal.binary64? valueField with
          | none =>
              simp only [value] at refused
              obtain rfl := Except.error.inj refused
              exact .value shape meets (Literal.binary64?_eq_none_iff.mp value)
          | some number =>
              simp only [value] at refused
              cases timestamp : Literal.natural? greatestTimestamp timestampField with
              | none =>
                  simp only [timestamp] at refused
                  obtain rfl := Except.error.inj refused
                  exact .timestamp shape meets (Literal.binary64?_eq_some_iff.mp value)
                    (Literal.natural?_eq_none_iff.mp timestamp)
              | some seconds =>
                  simp only [timestamp] at refused
                  cases refused

theorem fails_of_read {error : PacketError} (refused : read policy line = .error error) :
    Fails policy line error := by
  unfold read at refused
  split at refused
  · rename_i keyField valueField timestampField shape
    exact fails_of_ofFields (fields_eq_iff.mp shape) refused
  · rename_i others
    obtain rfl := Except.error.inj refused
    refine .fieldCount (fields_eq_iff.mp rfl) fun three => ?_
    obtain ⟨keyField, valueField, timestampField, shape⟩ := List.length_eq_three.mp three
    exact others _ _ _ shape

theorem read_of_fields {keyField valueField timestampField : Bytes}
    (fields : Fields.Runs separates line [keyField, valueField, timestampField]) :
    read policy line = ofFields policy keyField valueField timestampField := by
  rw [read, fields_eq_iff.mpr fields]

theorem read_of_fails {error : PacketError} (fails : Fails policy line error) :
    read policy line = .error error := by
  cases fails with
  | fieldCount fields wrong =>
      obtain rfl := fields_eq_iff.mpr fields
      unfold read
      split
      · rename_i shape
        rw [shape] at wrong
        exact absurd rfl wrong
      · rfl
  | encoding fields notText =>
      rw [read_of_fields fields, ofFields, Utf8.decode?_eq_none_iff.mpr notText]
  | key fields faulty =>
      rw [read_of_fields fields, ofFields, Utf8.decode?_encode]
      simp only [KeyPolicy.check_eq_error_iff.mpr faulty]
  | value fields meets notNumber =>
      rw [read_of_fields fields, ofFields, Utf8.decode?_encode]
      simp only [KeyPolicy.check_eq_ok_iff.mpr meets, Literal.binary64?_eq_none_iff.mpr notNumber]
  | timestamp fields meets number notTime =>
      rw [read_of_fields fields, ofFields, Utf8.decode?_encode]
      simp only [KeyPolicy.check_eq_ok_iff.mpr meets, Literal.binary64?_eq_some_iff.mpr number,
        Literal.natural?_eq_none_iff.mpr notTime]

/-- **Reading accepts the grammar and nothing else.** A line is read as the packet that it
spells, and a line that spells none is refused for the first way in which it fails. -/
theorem read_accepts_grammar (policy : KeyPolicy) (line : Bytes) :
    (∀ packet, read policy line = .ok packet ↔ Spells policy line packet) ∧
      ∀ error, read policy line = .error error ↔ Fails policy line error :=
  ⟨fun _ => read_eq_ok_iff_spells, fun _ => ⟨fails_of_read, read_of_fails⟩⟩

end MetricIntake.Packet
