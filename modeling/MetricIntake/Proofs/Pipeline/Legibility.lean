import MetricIntake.Proofs.Observation
import MetricIntake.Proofs.Packet.Grammar
import MetricIntake.Proofs.Pipeline.Effects
import MetricIntake.Proofs.Pipeline.Judgement
import MetricIntake.Proofs.Quarantine
import MetricIntake.Proofs.Text.Cutting

/-!
Contract: whatever an item holds, what is said and kept of its line is text without loss.

Owns:
- lines and fields that are text;
- what the error of a line of text tells, and that the encoding is never among it;
- what quarantine keeps of an item, with the very bytes of its line.

Does not own: which items are refused.
-/

set_option autoImplicit false

namespace MetricIntake

/-- The bytes are those of some text. -/
def Utf8.IsText (bytes : Bytes) : Prop :=
  ∃ text, Utf8.decode? bytes = some text

theorem Utf8.isText_encode (text : String) : IsText (encode text) :=
  ⟨text, decode?_encode text⟩

/-- Nothing is replaced where nothing is invalid: the text has the bytes that it was read from. -/
theorem Utf8.IsText.encode_lossy {bytes : Bytes} (isText : IsText bytes) :
    encode (lossy bytes) = bytes := by
  obtain ⟨text, decoded⟩ := isText
  obtain rfl := decode?_eq_some_iff.mp decoded
  rw [lossy_encode]

namespace Packet

theorem isBlank_ascii {byte : UInt8} (blank : isBlank byte = true) : byte.toNat < 0x80 := by
  by_cases small : byte.toNat ≤ 32
  · omega
  · rw [isBlank_of_graphic (Nat.not_le.mp small)] at blank
    cases blank

/-- Blanks are cut out of text between characters, never inside one. -/
theorem isText_of_mem_fields {line field : Bytes} (isText : Utf8.IsText line)
    (member : field ∈ fields line) : Utf8.IsText field := by
  obtain ⟨text, decoded⟩ := isText
  obtain rfl := Utf8.decode?_eq_some_iff.mp decoded
  rw [fields, Utf8.words_encode fun _ => isBlank_ascii] at member
  obtain ⟨characters, _, rfl⟩ := List.mem_map.mp member
  have whole := Utf8.isText_encode (String.ofList characters)
  rwa [Utf8.encode, String.toList_ofList] at whole

/-- An error shows a field of a line when that is the one it is about and is shown without loss. -/
structure Shows (line field : Bytes) (index : Nat) : Prop where
  three : (fields line).length = 3
  isField : (fields line)[index]? = some field
  lossless : Utf8.encode (Utf8.lossy field) = field

/-- What the error of a line tells if the line is text. -/
structure TellsExactly (line : Bytes) (error : PacketError) : Prop where
  /-- The encoding is never at fault. -/
  encoding : error.fault ≠ .encoding
  /-- A refused value is the second field, and is no number. -/
  value : ∀ field, error.fault = .value field →
    Shows line field 1 ∧ ∀ number, ¬Literal.Denotes field number
  /-- A refused timestamp is the third field, and is no time. -/
  timestamp : ∀ field, error.fault = .timestamp field →
    Shows line field 2 ∧ ∀ seconds, ¬Literal.DenotesNatural greatestTimestamp field seconds

theorem shows_of_isText {line field : Bytes} {index : Nat} (isText : Utf8.IsText line)
    (three : (fields line).length = 3) (isField : (fields line)[index]? = some field) :
    Shows line field index :=
  ⟨three, isField, (isText_of_mem_fields isText (List.mem_of_getElem? isField)).encode_lossy⟩

theorem tellsExactly_of_read {policy : KeyPolicy} {line : Bytes} {error : PacketError}
    (isText : Utf8.IsText line) (refused : read policy line = .error error) :
    TellsExactly line error := by
  cases fails_of_read refused with
  | fieldCount runs wrong => constructor <;> simp
  | @encoding keyField valueField timestampField runs notText =>
      have member : keyField ∈ fields line := by
        rw [fields_eq_iff.mpr runs]
        exact List.mem_cons_self
      obtain ⟨text, decoded⟩ := isText_of_mem_fields isText member
      exact absurd (Utf8.decode?_eq_some_iff.mp decoded) (notText text)
  | key runs faulty => constructor <;> simp
  | @value valueField timestampField key runs meets notNumber =>
      have shape := fields_eq_iff.mpr runs
      constructor
      case encoding => simp
      case timestamp => simp
      case value =>
        intro field same
        obtain rfl := PacketFault.value.inj same
        exact ⟨shows_of_isText isText (by rw [shape]; rfl) (by rw [shape]; rfl), notNumber⟩
  | @timestamp valueField timestampField key number runs meets isNumber notTime =>
      have shape := fields_eq_iff.mpr runs
      constructor
      case encoding => simp
      case value => simp
      case timestamp =>
        intro field same
        obtain rfl := PacketFault.timestamp.inj same
        exact ⟨shows_of_isText isText (by rw [shape]; rfl) (by rw [shape]; rfl), notTime⟩

end Packet

/-- The line of an observation is the text of its three texts with a blank between them. -/
theorem Observation.line_eq_encode (observation : Observation) :
    observation.line = Utf8.encode
      (observation.path ++ " " ++ observation.value ++ " " ++ observation.timestamp) := by
  have blank : Utf8.encode " " = [space] := rfl
  simp only [Utf8.encode_append, blank, line, List.append_assoc, List.singleton_append]

theorem Observation.isText_line (observation : Observation) : Utf8.IsText observation.line := by
  rw [line_eq_encode]
  exact Utf8.isText_encode _

namespace Pipeline

/-- What is kept of a refused line. -/
structure KeepsExactly (line : Bytes) (rejection : Rejection) : Prop where
  sameLine : rejection.line = line
  /-- The line can be shown without loss. -/
  lossless : Utf8.encode (Utf8.lossy line) = line
  /-- Whatever store takes it up, and whenever: if the key has a record then, that record shows the
  line without loss. -/
  stored : ∀ (store : Quarantine) (now : Span),
    ∀ record ∈ (store.record rejection.key rejection.line rejection.cause.message now).records,
      record.key = rejection.key → Utf8.encode record.lastLine = line

theorem keepsExactly_of_isText {line : Bytes} (isText : Utf8.IsText line) {rejection : Rejection}
    (same : rejection.line = line) : KeepsExactly line rejection where
  sameLine := same
  lossless := isText.encode_lossy
  stored := by
    intro store now record stored ofKey
    rw [Quarantine.lastLine_of_mem_record stored ofKey, same]
    exact isText.encode_lossy

section Judgements

variable {config : Config} {marks : Watermarks} {item : Value} {judgement : ItemOutcome × Watermarks}

/-- A refused line is that of the observation, and text. -/
theorem Judged.tells (judged : Judged config marks item judgement) {line : Bytes}
    {error : PacketError} (refused : judgement.1 = .rejected line error) :
    Packet.TellsExactly line error ∧
      ∃ observation, Observation.ofItem item = .ok observation ∧ line = observation.line := by
  cases judged with
  | invalid unobserved => cases refused
  | @rejected observation found observed unread =>
      cases refused
      have tells := Packet.tellsExactly_of_read observation.isText_line unread
      exact ⟨tells, observation, observed, rfl⟩
  | outOfOrder observed read ordered late => cases refused
  | dispatched observed read advances => cases refused

/-- An entry has the line of the observation, whether that was no packet or late. -/
theorem Judged.keeps (judged : Judged config marks item judgement) {rejection : Rejection}
    (entry : judgement.1.rejection = some rejection) :
    ∃ observation, Observation.ofItem item = .ok observation ∧
      KeepsExactly observation.line rejection := by
  cases judged with
  | invalid unobserved => cases entry
  | @rejected observation found observed unread =>
      cases entry
      exact ⟨observation, observed, keepsExactly_of_isText observation.isText_line rfl⟩
  | @outOfOrder observation packet found observed read ordered late =>
      cases entry
      exact ⟨observation, observed, keepsExactly_of_isText observation.isText_line rfl⟩
  | dispatched observed read advances => cases entry

end Judgements

/-- What is said and kept of an item that a pipeline takes up. -/
structure IsLegible (config : Config) (pipeline : Pipeline) (item : Value) : Prop where
  /-- The line of an observation is text, and so is each of its fields. -/
  line : ∀ observation, Observation.ofItem item = .ok observation →
    Utf8.IsText observation.line ∧ ∀ field ∈ Packet.fields observation.line, Utf8.IsText field
  /-- A refused line is that of the observation. Its encoding is never at fault, and a value or
  timestamp at fault is shown as it stands in the line. -/
  rejected : ∀ line error, (processItem config pipeline item).1 = .rejected line error →
    Packet.TellsExactly line error ∧
      ∃ observation, Observation.ofItem item = .ok observation ∧ line = observation.line
  /-- Quarantine is given the entry of the outcome, if that has one, and no other. -/
  given : (processItem config pipeline item).2.quarantined.toList =
    pipeline.quarantined.toList ++ (processItem config pipeline item).1.rejection.toList
  /-- The entry keeps the line of the observation as it is. -/
  kept : ∀ rejection, (processItem config pipeline item).1.rejection = some rejection →
    ∃ observation, Observation.ofItem item = .ok observation ∧
      KeepsExactly observation.line rejection

/-- **Lines are text, and what is said and kept of them loses nothing**, for every item, every
configuration and every state. No line is refused for its encoding. The field that an error shows
and the line that quarantine keeps have the bytes that they have in the line of the item. -/
theorem processItem_isLegible (config : Config) (pipeline : Pipeline) (item : Value) :
    IsLegible config pipeline item := by
  have judged := judge_judged config pipeline.watermarks item
  constructor
  case line =>
    intro observation _
    have isText := observation.isText_line
    exact ⟨isText, fun field => Packet.isText_of_mem_fields isText⟩
  case rejected => exact fun line error refused => judged.tells refused
  case given => exact record_quarantined pipeline.countItem _
  case kept => exact fun rejection entry => judged.keeps entry

/-- A value of two bytes that are one character is refused as this value, under a key with such a
character, and the line is kept as it is. -/
theorem processItem_isLegible_umlaut :
    let item := Value.metricItem (.text "é") (.signed 5) (.text "ü")
    let line : Bytes := [195, 169, 32, 195, 188, 32, 53]
    let error : PacketError := ⟨"é", .value [195, 188]⟩
    (processItem Config.default .initial item).1 = .rejected line error ∧
      Packet.Shows line [195, 188] 1 ∧ KeepsExactly line ⟨"é", line, .packet error⟩ := by
  intro item line error
  have outcome : (processItem Config.default .initial item).1 = .rejected line error := by
    decide +kernel
  have legible := processItem_isLegible Config.default .initial item
  obtain ⟨tells, observation, observed, same⟩ := legible.rejected _ _ outcome
  obtain ⟨other, otherObserved, keeps⟩ :=
    legible.kept ⟨"é", line, .packet error⟩ (by rw [outcome]; rfl)
  obtain rfl := Except.ok.inj (observed.symm.trans otherObserved)
  rw [← same] at keeps
  exact ⟨outcome, (tells.value _ rfl).1, keeps⟩

end Pipeline

end MetricIntake
