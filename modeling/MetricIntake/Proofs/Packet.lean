import MetricIntake.Packet.Reading

/-!
Contract: the lines that are packets.

Owns: what three fields have to be for a line to be a packet, and which packet it then is.

Does not own: what a policy demands of a key, nor which literals are numbers.
-/

set_option autoImplicit false

namespace MetricIntake.Packet

theorem ofFields_eq_ok_iff {policy : KeyPolicy} {keyField valueField timestampField : Bytes}
    {packet : Packet} :
    ofFields policy keyField valueField timestampField = .ok packet ↔
      Utf8.decode? keyField = some packet.key ∧ policy.check packet.key = .ok () ∧
        Literal.binary64? valueField = some packet.value ∧
        (Literal.natural? greatestTimestamp timestampField).map UInt32.ofNat =
          some packet.timestamp := by
  obtain ⟨packetKey, packetValue, packetTimestamp⟩ := packet
  unfold ofFields
  cases decoded : Utf8.decode? keyField with
  | none => simp
  | some key =>
      simp only [Option.some.injEq]
      cases verdict : policy.check key with
      | error fault =>
          simp only [reduceCtorEq, false_iff]
          rintro ⟨rfl, accepted, -⟩
          simp [verdict] at accepted
      | ok accepted =>
          cases value : Literal.binary64? valueField with
          | none => simp
          | some number =>
              cases timestamp : Literal.natural? greatestTimestamp timestampField with
              | none => simp
              | some seconds =>
                  simp only [Except.ok.injEq, Packet.mk.injEq, Option.some.injEq, Option.map_some]
                  constructor
                  · rintro ⟨rfl, rfl, rfl⟩
                    exact ⟨rfl, verdict, rfl, rfl⟩
                  · rintro ⟨rfl, -, rfl, rfl⟩
                    exact ⟨rfl, rfl, rfl⟩

/-- **The lines that are packets** are those of three fields which are an acceptable key, a number
and a timestamp. -/
theorem read_eq_ok_iff {policy : KeyPolicy} {line : Bytes} {packet : Packet} :
    read policy line = .ok packet ↔
      ∃ keyField valueField timestampField,
        fields line = [keyField, valueField, timestampField] ∧
          Utf8.decode? keyField = some packet.key ∧ policy.check packet.key = .ok () ∧
          Literal.binary64? valueField = some packet.value ∧
          (Literal.natural? greatestTimestamp timestampField).map UInt32.ofNat =
            some packet.timestamp := by
  unfold read
  constructor
  · intro outcome
    split at outcome
    · rename_i keyField valueField timestampField shape
      exact ⟨keyField, valueField, timestampField, shape, ofFields_eq_ok_iff.mp outcome⟩
    · simp at outcome
  · rintro ⟨keyField, valueField, timestampField, shape, parts⟩
    rw [shape]
    exact ofFields_eq_ok_iff.mpr parts

end MetricIntake.Packet
