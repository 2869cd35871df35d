import MetricIntake.Decoder
import MetricIntake.Frame.Format
import MetricIntake.Proofs.Pickle.Execution
import MetricIntake.Proofs.Pickle.KeyOrder

/-!
Contract: reading a written payload gives the canonical form of the value.

Owns:
- the value of the object of a value, which is its canonical form and needs no memo;
- the payload of a value as a run of the machine from the header to the end;
- reading a payload back, whatever follows it;
- the payload of a list, which starts as a batch does and is read as one.

Does not own: payloads that no encoder has written.
-/

set_option autoImplicit false

namespace MetricIntake.Pickle

open Canonical (canonical canonicalAll canonicalEntries allSurvive entriesSurvive keyText?
  leastInteger)
open Instruction (integerObject)
open Resolution (Resolved resolve resolveAll resolveEntries)

/-! ### Integers -/

theorem leastInteger_of_signed (number : Int64) : leastInteger number.toInt = .signed number := by
  have lower := number.le_toInt
  have upper := number.toInt_le
  rw [leastInteger, if_pos ⟨lower, upper⟩, Int64.ofInt_toInt]

theorem integerValue_eq (number : Int) :
    Resolution.integerValue number = leastInteger number := by
  have fits : Literal.fitsInt64 number = true ↔
      -9223372036854775808 ≤ number ∧ number ≤ 9223372036854775807 := by
    rw [Literal.fitsInt64, Bool.and_eq_true_iff, decide_eq_true_iff, decide_eq_true_iff]
    rfl
  simp only [Resolution.integerValue, leastInteger, fits]

theorem resolve_integerObject (depth : Nat) (memo : Memo) (number : Int) :
    resolve depth memo (integerObject number) = .ok (⟨leastInteger number, true⟩, memo) := by
  unfold integerObject
  by_cases small : -2147483648 ≤ number ∧ number ≤ 2147483647
  · rw [if_pos small, resolve, leastInteger, if_pos (by omega)]
    rfl
  · rw [if_neg small, resolve, integerValue_eq]
    rfl

/-! ### Objects -/

theorem hasTextKeys_canonicalEntries {entries : List (Value × Value)}
    (keys : KeyOrder.HasTextKeys entries) : KeyOrder.HasTextKeys (canonicalEntries entries) := by
  have same (entries : List (Value × Value)) :
      (canonicalEntries entries).map Prod.fst = entries.map Prod.fst := by
    induction entries with
    | nil => rfl
    | cons entry rest inductionHypothesis =>
        rw [canonicalEntries, List.map_cons, List.map_cons, inductionHypothesis]
  constructor
  · intro entry member
    have key := List.mem_map_of_mem (f := Prod.fst) member
    rw [same] at key
    obtain ⟨original, originalMember, originalKey⟩ := List.mem_map.mp key
    rw [← originalKey]
    exact keys.texts original originalMember
  · have distinct := keys.distinct
    have mapped (entries : List (Value × Value)) :
        (entries.map fun entry => keyText? entry.1) = (entries.map Prod.fst).map keyText? := by
      rw [List.map_map]
      rfl
    rw [mapped] at distinct ⊢
    rwa [same]

mutual

/-- The value of the object of a value is its canonical form, and a text can be a key. -/
theorem resolve_objectOf {value : Value} (survives : Canonical.survives value = true)
    (depth : Nat) (memo : Memo) :
    ∃ hashable, resolve depth memo (objectOf value) = .ok (⟨canonical value, hashable⟩, memo) ∧
      ((keyText? value).isSome → hashable = true) := by
  match value with
  | .null => exact ⟨true, by rw [objectOf, resolve]; rfl, fun _ => rfl⟩
  | .bool truth => exact ⟨true, by rw [objectOf, resolve]; rfl, fun _ => rfl⟩
  | .text content => exact ⟨true, by rw [objectOf, resolve]; rfl, fun _ => rfl⟩
  | .bytes content =>
      obtain ⟨spelled, decoded⟩ := Option.isSome_iff_exists.mp survives
      refine ⟨true, ?_, fun _ => rfl⟩
      simp only [objectOf, canonical, decoded, Option.getD_some]
      rw [resolve]
      rfl
  | .signed number =>
      refine ⟨true, ?_, fun _ => rfl⟩
      rw [objectOf, resolve_integerObject, leastInteger_of_signed]
      rfl
  | .unsigned number => exact ⟨true, resolve_integerObject depth memo _, fun _ => rfl⟩
  | .bigInteger number => exact ⟨true, resolve_integerObject depth memo _, fun _ => rfl⟩
  | .float number => exact ⟨true, by rw [objectOf, resolve]; rfl, fun _ => rfl⟩
  | .list items =>
      obtain ⟨resolved, found, values⟩ := resolveAll_objectsOf survives depth memo
      refine ⟨false, ?_, fun text => absurd text (by simp [keyText?])⟩
      rw [objectOf, resolve, found, canonical, ← values]
      rfl
  | .tuple items =>
      obtain ⟨resolved, found, values⟩ := resolveAll_objectsOf survives depth memo
      refine ⟨resolved.all (·.hashable), ?_, fun text => absurd text (by simp [keyText?])⟩
      rw [objectOf, resolve, found, canonical, ← values]
      rfl
  | .dict entries =>
      obtain ⟨distinct, survive⟩ := Bool.and_eq_true_iff.mp survives
      have keys := KeyOrder.hasTextKeys_of_distinctTexts distinct
      have found := resolveEntries_objectsOf keys.texts survive depth memo
      refine ⟨false, ?_, fun text => absurd text (by simp [keyText?])⟩
      rw [objectOf, resolve, found, canonical,
        ← KeyOrder.sortedDict_eq_mergeSort (hasTextKeys_canonicalEntries keys)]
      rfl
  | .set items => exact absurd survives (by simp [Canonical.survives])

theorem resolveAll_objectsOf {items : List Value} (survive : allSurvive items = true)
    (depth : Nat) (memo : Memo) :
    ∃ resolved, resolveAll depth memo (objectsOf items) = .ok (resolved, memo) ∧
      resolved.map Resolved.value = canonicalAll items := by
  match items with
  | [] => exact ⟨[], by rw [objectsOf, resolveAll], rfl⟩
  | item :: rest =>
      obtain ⟨survivesFirst, surviveOthers⟩ := Bool.and_eq_true_iff.mp survive
      obtain ⟨hashable, first, -⟩ := resolve_objectOf survivesFirst depth memo
      obtain ⟨others, found, values⟩ := resolveAll_objectsOf surviveOthers depth memo
      refine ⟨⟨canonical item, hashable⟩ :: others, ?_, ?_⟩
      · rw [objectsOf, resolveAll, first]
        simp only [bind, Except.bind, found, pure, Except.pure]
      · rw [List.map_cons, values, canonicalAll]

theorem resolveEntries_objectsOf {entries : List (Value × Value)}
    (texts : ∀ entry ∈ entries, ∃ content, keyText? entry.1 = some content)
    (survive : entriesSurvive entries = true) (depth : Nat) (memo : Memo) :
    resolveEntries depth memo (entryObjectsOf entries) = .ok (canonicalEntries entries, memo) := by
  match entries with
  | [] => rw [entryObjectsOf, resolveEntries, canonicalEntries]
  | (key, value) :: rest =>
      obtain ⟨survivesFirst, surviveOthers⟩ := Bool.and_eq_true_iff.mp survive
      obtain ⟨content, contentKey⟩ := texts (key, value) List.mem_cons_self
      obtain rfl : key = .text content := KeyOrder.keyText?_eq_some_iff.mp contentKey
      obtain ⟨hashable, held, -⟩ := resolve_objectOf survivesFirst depth memo
      have others := resolveEntries_objectsOf
        (fun entry member => texts entry (List.mem_cons_of_mem _ member))
        surviveOthers depth memo
      rw [entryObjectsOf, resolveEntries, canonicalEntries, objectOf, resolve]
      simp only [Resolution.leaf, Resolution.requireKey, bind, Except.bind, if_true, held, others,
        pure, Except.pure]

end

/-! ### Payloads -/

theorem encode_eq_ok_iff {value : Value} {payload : Bytes} :
    encode value = .ok payload ↔
      ∃ body, Encoding.instructions value = .ok body ∧
        payload = [0x80, 0x02] ++ body ++ [0x2E] := by
  rw [encode, bind_eq_ok_iff]
  constructor
  · rintro ⟨body, written, finished⟩
    exact ⟨body, written, (Except.ok.inj finished).symm⟩
  · rintro ⟨body, written, rfl⟩
    exact ⟨body, written, rfl⟩

/-- A payload without its last byte is a run that leaves the object of the value. -/
theorem payload_executes {value : Value} {body : Bytes} (legible : Legible value)
    (written : Encoding.instructions value = .ok body) :
    Machine.initial.Executes ([0x80, 0x02] ++ body) (Machine.initial.push (objectOf value)) :=
  (Machine.Executes.one Instruction.protocol_accepts (by simp) rfl).trans
    (legible.pushes body written Machine.initial)

mutual

/-- What survives a payload is legible. -/
theorem legible_of_survives {value : Value} (survives : Canonical.survives value = true) :
    Legible value := by
  match value with
  | .null => exact .null
  | .bool truth => exact .bool truth
  | .text content => exact .text content
  | .bytes content =>
      obtain ⟨spelled, decoded⟩ := Option.isSome_iff_exists.mp survives
      exact .bytes decoded
  | .signed number => exact .signed number
  | .unsigned number => exact .unsigned number
  | .bigInteger number => exact .bigInteger number
  | .float number => exact .float number
  | .list items => exact .list (legible_of_allSurvive survives)
  | .tuple items => exact .tuple (legible_of_allSurvive survives)
  | .dict entries =>
      obtain ⟨distinct, survive⟩ := Bool.and_eq_true_iff.mp survives
      have keys := KeyOrder.hasTextKeys_of_distinctTexts distinct
      refine .dict (fun entry member => ?_) (legible_of_entriesSurvive survive)
      obtain ⟨content, contentKey⟩ := keys.texts entry member
      rw [KeyOrder.keyText?_eq_some_iff.mp contentKey]
      exact .text content
  | .set items => exact absurd survives (by simp [Canonical.survives])

theorem legible_of_allSurvive {items : List Value} (survive : allSurvive items = true) :
    ∀ item ∈ items, Legible item := by
  match items with
  | [] => simp
  | item :: rest =>
      obtain ⟨first, others⟩ := Bool.and_eq_true_iff.mp survive
      exact List.forall_mem_cons.mpr ⟨legible_of_survives first, legible_of_allSurvive others⟩

theorem legible_of_entriesSurvive {entries : List (Value × Value)}
    (survive : entriesSurvive entries = true) : ∀ entry ∈ entries, Legible entry.2 := by
  match entries with
  | [] => simp
  | (key, value) :: rest =>
      obtain ⟨first, others⟩ := Bool.and_eq_true_iff.mp survive
      exact List.forall_mem_cons.mpr ⟨legible_of_survives first, legible_of_entriesSurvive others⟩

end

/-- **Reading a written payload back** gives the canonical form of the value, whatever follows the
payload. -/
theorem read_encode {value : Value} {payload : Bytes}
    (survives : Canonical.survives value = true) (written : encode value = .ok payload)
    (trailing : Bytes) : read (payload ++ trailing) = .ok (canonical value) := by
  obtain ⟨body, bodyWritten, rfl⟩ := encode_eq_ok_iff.mp written
  have executes := payload_executes (legible_of_survives survives) bodyWritten
  obtain ⟨left, enough, runs⟩ := executes.run_eq (1 + trailing.length)
  obtain ⟨fuel, rfl⟩ : ∃ fuel, left = fuel + 1 := ⟨left - 1, by omega⟩
  have length : ([0x80, 0x02] ++ body ++ [0x2E] ++ trailing : Bytes).length =
      ([0x80, 0x02] ++ body : Bytes).length + (1 + trailing.length) := by
    simp only [List.append_assoc, List.length_append, List.length_singleton, Nat.add_assoc]
  have stops : Machine.runPayload ([0x80, 0x02] ++ body ++ [0x2E] ++ trailing) =
      .ok (objectOf value, .empty) := by
    rw [Machine.runPayload, length, List.append_assoc, runs]
    rfl
  obtain ⟨hashable, resolved, -⟩ := resolve_objectOf survives Memo.empty.size .empty
  rw [read, stops]
  simp only [Resolution.valueOf, resolved, bind, Except.bind, pure, Except.pure]

/-! ### Batches -/

theorem hasMarker_encode {items : List Value} {payload : Bytes}
    (written : encode (.list items) = .ok payload) : Frame.hasMarker payload = true := by
  obtain ⟨body, bodyWritten, rfl⟩ := encode_eq_ok_iff.mp written
  obtain ⟨inner, innerWritten, finished⟩ := bind_eq_ok_iff.mp bodyWritten
  obtain rfl := Except.ok.inj finished
  cases items <;> rfl

theorem batch_encode {items : List Value} {payload : Bytes} (survive : allSurvive items = true)
    (written : encode (.list items) = .ok payload) :
    Decoder.pickle.batch payload = .items (canonicalAll items) := by
  have held := read_encode (show Canonical.survives (.list items) = true from survive) written []
  rw [List.append_nil] at held
  rw [Decoder.batch, Decoder.pickle, decode, held]
  rfl

end MetricIntake.Pickle
