import MetricIntake.Proofs.Pickle.RoundTrip

/-!
Contract: every value that a sender can send has a payload, and the payload is read as the canonical
form of the value.

Owns:
- the values that a sender can send, by their constructors, with the limits of texts, byte strings
  and integers, and those that can be written, whose keys may repeat;
- that values that can be written have a payload, and that those that can be sent survive;
- reading their payloads back, whatever follows.

Does not own: sets, and dictionaries whose keys are no texts or not distinct.
-/

set_option autoImplicit false

namespace MetricIntake.Pickle

open Canonical (allSurvive canonical entriesSurvive keyText?)
open Encoding (instructions instructionsAll instructionsEntries)

/-- The values that a sender can send: trees of lists, tuples and dictionaries over texts whose
length four bytes hold, byte strings of at most 255 bytes that spell texts, integers of at most 255
bytes, and what needs no length. Dictionaries have distinct texts for keys. -/
inductive Sendable : Value → Prop where
  | null : Sendable .null
  | bool (truth : Bool) : Sendable (.bool truth)
  | text {content : String} (short : (Utf8.encode content).length < 4294967296) :
      Sendable (.text content)
  | bytes {content : Bytes} {spelled : String} (short : content.length ≤ 255)
      (spells : Utf8.decode? content = some spelled) : Sendable (.bytes content)
  | signed (number : Int64) : Sendable (.signed number)
  | unsigned (number : UInt64) : Sendable (.unsigned number)
  | bigInteger {number : Int} (fits : Bytes.Fits 255 number) : Sendable (.bigInteger number)
  | float (number : Binary64) : Sendable (.float number)
  | list {items : List Value} (each : ∀ item ∈ items, Sendable item) : Sendable (.list items)
  | tuple {items : List Value} (each : ∀ item ∈ items, Sendable item) : Sendable (.tuple items)
  | dict {entries : List (Value × Value)}
      (texts : ∀ entry ∈ entries, ∃ content, entry.1 = .text content)
      (distinct : (entries.map Prod.fst).Nodup)
      (keys : ∀ entry ∈ entries, Sendable entry.1)
      (values : ∀ entry ∈ entries, Sendable entry.2) : Sendable (.dict entries)

/-- The values that can be written: as the values that a sender can send, but a dictionary may name a
key more than once. -/
inductive Writable : Value → Prop where
  | null : Writable .null
  | bool (truth : Bool) : Writable (.bool truth)
  | text {content : String} (short : (Utf8.encode content).length < 4294967296) :
      Writable (.text content)
  | bytes {content : Bytes} {spelled : String} (short : content.length ≤ 255)
      (spells : Utf8.decode? content = some spelled) : Writable (.bytes content)
  | signed (number : Int64) : Writable (.signed number)
  | unsigned (number : UInt64) : Writable (.unsigned number)
  | bigInteger {number : Int} (fits : Bytes.Fits 255 number) : Writable (.bigInteger number)
  | float (number : Binary64) : Writable (.float number)
  | list {items : List Value} (each : ∀ item ∈ items, Writable item) : Writable (.list items)
  | tuple {items : List Value} (each : ∀ item ∈ items, Writable item) : Writable (.tuple items)
  | dict {entries : List (Value × Value)}
      (texts : ∀ entry ∈ entries, ∃ content, entry.1 = .text content)
      (keys : ∀ entry ∈ entries, Writable entry.1)
      (values : ∀ entry ∈ entries, Writable entry.2) : Writable (.dict entries)

theorem Sendable.writable {value : Value} (sendable : Sendable value) : Writable value := by
  induction sendable with
  | null => exact .null
  | bool truth => exact .bool truth
  | text short => exact .text short
  | bytes short spells => exact .bytes short spells
  | signed number => exact .signed number
  | unsigned number => exact .unsigned number
  | bigInteger fits => exact .bigInteger fits
  | float number => exact .float number
  | list each writable => exact .list writable
  | tuple each writable => exact .tuple writable
  | dict texts distinct keys values writableKeys writable =>
      exact .dict texts writableKeys writable

theorem Writable.legible {value : Value} (writable : Writable value) : Legible value := by
  induction writable with
  | null => exact .null
  | bool truth => exact .bool truth
  | @text content short => exact .text content
  | bytes short spells => exact .bytes spells
  | signed number => exact .signed number
  | unsigned number => exact .unsigned number
  | @bigInteger number fits => exact .bigInteger number
  | float number => exact .float number
  | list each legible => exact .list legible
  | tuple each legible => exact .tuple legible
  | dict texts keys values legibleKeys legible => exact .dict legibleKeys legible

/-! ### Writing -/

theorem integer_ok {number : Int} (fits : Bytes.Fits 255 number) :
    ∃ bytes, Encoding.integer number = .ok bytes := by
  have width := Bytes.twosComplementWidth_le fits (by decide)
  simp only [Encoding.integer]
  by_cases small : -2147483648 ≤ number ∧ number ≤ 2147483647
  · exact ⟨_, if_pos small⟩
  · rw [if_neg small]
    exact ⟨_, if_pos width⟩

/-- Integers of 64 bits, with a sign or without, have far fewer than 255 bytes. -/
theorem integer_ok_of_bounded {number : Int}
    (bounded : -18446744073709551616 ≤ number ∧ number < 18446744073709551616) :
    ∃ bytes, Encoding.integer number = .ok bytes := by
  have large : 36893488147419103232 ≤ Bytes.capacity 255 := by decide +kernel
  obtain ⟨lower, upper⟩ := bounded
  exact integer_ok ⟨by omega, by omega⟩

theorem instructionsAll_ok {items : List Value}
    (each : ∀ item ∈ items, ∃ bytes, instructions item = .ok bytes) :
    ∃ bytes, instructionsAll items = .ok bytes := by
  induction items with
  | nil => exact ⟨[], rfl⟩
  | cons item rest inductionHypothesis =>
      obtain ⟨first, writtenFirst⟩ := each item List.mem_cons_self
      obtain ⟨others, writtenOthers⟩ :=
        inductionHypothesis fun other member => each other (List.mem_cons_of_mem _ member)
      refine ⟨first ++ others, ?_⟩
      rw [instructionsAll, writtenFirst, writtenOthers]
      rfl

theorem instructionsEntries_ok {entries : List (Value × Value)}
    (keys : ∀ entry ∈ entries, ∃ bytes, instructions entry.1 = .ok bytes)
    (values : ∀ entry ∈ entries, ∃ bytes, instructions entry.2 = .ok bytes) :
    ∃ bytes, instructionsEntries entries = .ok bytes := by
  induction entries with
  | nil => exact ⟨[], rfl⟩
  | cons entry rest inductionHypothesis =>
      obtain ⟨key, value⟩ := entry
      obtain ⟨first, writtenFirst⟩ := keys (key, value) List.mem_cons_self
      obtain ⟨second, writtenSecond⟩ := values (key, value) List.mem_cons_self
      obtain ⟨others, writtenOthers⟩ := inductionHypothesis
        (fun other member => keys other (List.mem_cons_of_mem _ member))
        (fun other member => values other (List.mem_cons_of_mem _ member))
      refine ⟨first ++ second ++ others, ?_⟩
      rw [instructionsEntries, writtenFirst, writtenSecond, writtenOthers]
      rfl

theorem Writable.instructions_ok {value : Value} (writable : Writable value) :
    ∃ bytes, instructions value = .ok bytes := by
  induction writable with
  | null => exact ⟨_, rfl⟩
  | bool truth => cases truth <;> exact ⟨_, rfl⟩
  | text short => exact ⟨_, if_pos (Nat.le_of_lt_succ short)⟩
  | bytes short spells => exact ⟨_, if_pos short⟩
  | signed number =>
      have lower := number.le_toInt
      have upper := number.toInt_lt
      exact integer_ok_of_bounded ⟨by omega, by omega⟩
  | unsigned number =>
      have upper := number.toNat_lt
      exact integer_ok_of_bounded ⟨by omega, by omega⟩
  | bigInteger fits => exact integer_ok fits
  | float number => exact ⟨_, rfl⟩
  | list each written =>
      obtain ⟨bytes, writtenAll⟩ := instructionsAll_ok written
      rw [instructions, writtenAll]
      exact ⟨_, rfl⟩
  | tuple each written =>
      obtain ⟨bytes, writtenAll⟩ := instructionsAll_ok written
      rw [instructions, writtenAll]
      exact ⟨_, rfl⟩
  | dict texts keys values writtenKeys writtenValues =>
      obtain ⟨bytes, writtenEntries⟩ := instructionsEntries_ok writtenKeys writtenValues
      rw [instructions, writtenEntries]
      exact ⟨_, rfl⟩

/-! ### Surviving -/

theorem allSurvive_iff {items : List Value} :
    allSurvive items = true ↔ ∀ item ∈ items, Canonical.survives item = true := by
  induction items with
  | nil => simp [allSurvive]
  | cons item rest inductionHypothesis =>
      rw [allSurvive, Bool.and_eq_true, inductionHypothesis, List.forall_mem_cons]

theorem canonicalAll_eq_map (items : List Value) :
    Canonical.canonicalAll items = items.map canonical := by
  induction items with
  | nil => rfl
  | cons item rest inductionHypothesis =>
      rw [Canonical.canonicalAll, List.map_cons, inductionHypothesis]

theorem entriesSurvive_iff {entries : List (Value × Value)} :
    entriesSurvive entries = true ↔ ∀ entry ∈ entries, Canonical.survives entry.2 = true := by
  induction entries with
  | nil => simp [entriesSurvive]
  | cons entry rest inductionHypothesis =>
      rw [entriesSurvive, Bool.and_eq_true, inductionHypothesis, List.forall_mem_cons]

theorem distinctTexts_of_nodup {entries : List (Value × Value)}
    (texts : ∀ entry ∈ entries, ∃ content, entry.1 = .text content)
    (distinct : (entries.map Prod.fst).Nodup) : Canonical.distinctTexts entries = true := by
  rw [Canonical.distinctTexts, Bool.and_eq_true, List.all_eq_true, decide_eq_true_eq]
  constructor
  · intro entry member
    obtain ⟨content, key⟩ := texts entry member
    rw [key]
    rfl
  · refine List.pairwise_map.mpr (List.Pairwise.imp_of_mem ?_ (List.pairwise_map.mp distinct))
    intro left right leftMember rightMember differ same
    obtain ⟨content, leftKey⟩ := texts left leftMember
    rw [leftKey] at same
    exact differ (leftKey.trans (KeyOrder.keyText?_eq_some_iff.mp same.symm).symm)

/-- A value that a sender can send survives. -/
theorem Sendable.survives {value : Value} (sendable : Sendable value) :
    Canonical.survives value = true := by
  induction sendable with
  | bytes short spells => rw [Canonical.survives, spells, Option.isSome_some]
  | list each survive => exact allSurvive_iff.mpr survive
  | tuple each survive => exact allSurvive_iff.mpr survive
  | dict texts distinct keys values surviveKeys survive =>
      rw [Canonical.survives, Bool.and_eq_true]
      exact ⟨distinctTexts_of_nodup texts distinct, entriesSurvive_iff.mpr survive⟩
  | _ => rfl

/-! ### Payloads -/

theorem Writable.encode_ok {value : Value} (writable : Writable value) :
    ∃ payload, encode value = .ok payload := by
  obtain ⟨body, written⟩ := writable.instructions_ok
  exact ⟨_, encode_eq_ok_iff.mpr ⟨body, written, rfl⟩⟩

theorem Sendable.encode_ok {value : Value} (sendable : Sendable value) :
    ∃ payload, encode value = .ok payload :=
  sendable.writable.encode_ok

/-- **Decoding undoes encoding.** A value that a sender can send has a payload, and decoding the
payload gives the canonical form of the value, whatever bytes follow. -/
theorem Sendable.decode_encode_append {value : Value} (sendable : Sendable value) :
    ∃ payload, encode value = .ok payload ∧
      ∀ trailing, decode (payload ++ trailing) = .ok (canonical value) := by
  obtain ⟨payload, written⟩ := sendable.encode_ok
  refine ⟨payload, written, fun trailing => ?_⟩
  rw [decode, read_encode sendable.survives written trailing]
  rfl

/-- A dictionary whose keys are out of order, with integers and bytes that change their kind. -/
theorem Sendable.decode_encode_append_dict :
    ∃ payload,
      encode (.dict
          [(.text "b", .list [.bytes [104, 105], .tuple [], .float ⟨0x7FF8000000000001⟩]),
            (.text "a", .tuple [.unsigned 18446744073709551615, .bigInteger (-1), .null])]) =
        .ok payload ∧
      decode (payload ++ [0x2E, 0xFF]) = .ok (.dict
          [(.text "a", .tuple [.bigInteger 18446744073709551615, .signed (-1), .null]),
            (.text "b", .list [.text "hi", .tuple [], .float ⟨0x7FF8000000000001⟩])]) := by
  have spells : Utf8.decode? [104, 105] = some "hi" := by decide +kernel
  have fits : Bytes.Fits 255 (-1) := ⟨by decide +kernel, by decide +kernel⟩
  have keyB : Sendable (.text "b") := .text (by decide +kernel)
  have keyA : Sendable (.text "a") := .text (by decide +kernel)
  have valueB : Sendable (.list [.bytes [104, 105], .tuple [], .float ⟨0x7FF8000000000001⟩]) := by
    refine .list ?_
    simp only [List.forall_mem_cons]
    exact ⟨.bytes (by decide) spells, .tuple (by simp), .float _, by simp⟩
  have valueA :
      Sendable (.tuple [.unsigned 18446744073709551615, .bigInteger (-1), .null]) := by
    refine .tuple ?_
    simp only [List.forall_mem_cons]
    exact ⟨.unsigned _, .bigInteger fits, .null, by simp⟩
  have sendable : Sendable (.dict
      [(.text "b", .list [.bytes [104, 105], .tuple [], .float ⟨0x7FF8000000000001⟩]),
        (.text "a", .tuple [.unsigned 18446744073709551615, .bigInteger (-1), .null])]) := by
    refine .dict (by simp) (by simp) ?_ ?_
    · simp only [List.forall_mem_cons]
      exact ⟨keyB, keyA, by simp⟩
    · simp only [List.forall_mem_cons]
      exact ⟨valueB, valueA, by simp⟩
  obtain ⟨payload, written, decoded⟩ := Sendable.decode_encode_append sendable
  refine ⟨payload, written, (decoded [0x2E, 0xFF]).trans ?_⟩
  have order : Canonical.entryLe
      (.text "b", .list [.text "hi", .tuple [], .float ⟨0x7FF8000000000001⟩])
      (.text "a", .tuple [.bigInteger 18446744073709551615, .signed (-1), .null]) = false := by
    decide +kernel
  simp [canonical, Canonical.canonicalAll, Canonical.canonicalEntries, Canonical.leastInteger,
    spells, List.mergeSort, order]

end MetricIntake.Pickle
