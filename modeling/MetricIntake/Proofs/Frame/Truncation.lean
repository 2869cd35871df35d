import Mathlib.Data.Nat.Find
import MetricIntake.Proofs.Frame.Codec

/-!
Contract: what is read of the frames of some payloads when the stream is cut short.

Owns:
- where the frame of each payload begins, and where a cut falls among the frames;
- parsing a stream that ends within a header or within a payload;
- the frames that are read of a stream that is cut, and what is reported after them.

Does not own: streams that no sender has written.

## Three counts of what was received

What is reported of an incomplete frame is counted in three places: the bytes held of the header,
the bytes held of the marker, and the bytes held of the payload. The marker is a part of the payload,
so the last two are one count, and a cut has to be told apart only by whether the header is complete.
-/

set_option autoImplicit false

namespace MetricIntake.Frame

/-! ### Cuts -/

/-- Where the frame of a payload begins among the frames of all, by the index of the payload; the end
of all frames where there is no such payload. -/
def offset (payloads : List Bytes) (index : Nat) : Nat :=
  (encodeAll (payloads.take index)).length

/-- Where a cut falls: the number of frames before it, and what is reported after them. -/
inductive Truncated (payloads : List Bytes) : (cut count : Nat) → Result → Prop where
  /-- Between two frames, before the first or after the last. -/
  | between {count : Nat} (inside : count ≤ payloads.length) :
      Truncated payloads (offset payloads count) count .finished
  /-- Some bytes into a header. -/
  | header {count received : Nat} (begun : count < payloads.length) (positive : 0 < received)
      (few : received < headerSize) :
      Truncated payloads (offset payloads count + received) count (.failed (.midHeader received))
  /-- Behind a header, some bytes into its payload or none. -/
  | payload {count received : Nat} {payload : Bytes} (begun : payloads[count]? = some payload)
      (few : received < payload.length) :
      Truncated payloads (offset payloads count + headerSize + received) count
        (.failed (.midFrame received payload.length))

theorem encodeAll_append (front back : List Bytes) :
    encodeAll (front ++ back) = encodeAll front ++ encodeAll back :=
  List.flatMap_append

theorem encodeAll_eq_split (payloads : List Bytes) (count : Nat) :
    encodeAll payloads = encodeAll (payloads.take count) ++ encodeAll (payloads.drop count) := by
  rw [← encodeAll_append, List.take_append_drop]

theorem drop_eq_cons {payloads : List Bytes} {index : Nat} {payload : Bytes}
    (found : payloads[index]? = some payload) :
    payloads.drop index = payload :: payloads.drop (index + 1) := by
  obtain ⟨inside, rfl⟩ := List.getElem?_eq_some_iff.mp found
  exact List.drop_eq_getElem_cons inside

section Offsets

variable (payloads : List Bytes)

theorem offset_length : offset payloads payloads.length = (encodeAll payloads).length := by
  rw [offset, List.take_length]

theorem offset_mono {index later : Nat} (before : index ≤ later) :
    offset payloads index ≤ offset payloads later := by
  have split := congrArg List.length (encodeAll_eq_split (payloads.take later) index)
  rw [List.take_take, Nat.min_eq_left before, List.length_append] at split
  rw [offset, offset, split]
  exact Nat.le_add_right _ _

end Offsets

variable {payloads : List Bytes} {cut count : Nat} {last : Result}

/-- The next frame begins where a frame ends. -/
theorem offset_succ {index : Nat} {payload : Bytes} (found : payloads[index]? = some payload) :
    offset payloads (index + 1) = offset payloads index + headerSize + payload.length := by
  have one : encodeAll [payload] = encode payload := List.append_nil _
  rw [offset, List.take_add_one, found, encodeAll_append, Option.toList_some, one,
    List.length_append, encode_length, ← Nat.add_assoc]
  rfl

/-- A cut falls behind the frames that are counted, and before the end of the next. -/
theorem Truncated.bounds (truncated : Truncated payloads cut count last) :
    offset payloads count ≤ cut ∧
      ∀ payload, payloads[count]? = some payload → cut < offset payloads (count + 1) := by
  constructor
  · cases truncated <;> omega
  · intro payload found
    rw [offset_succ found]
    cases truncated with
    | between inside => simp only [headerSize]; omega
    | header begun positive few => omega
    | payload begun few =>
        obtain rfl := Option.some.inj (begun.symm.trans found)
        omega

theorem Truncated.count_le (truncated : Truncated payloads cut count last) :
    count ≤ payloads.length := by
  cases truncated with
  | between inside => exact inside
  | header begun positive few => exact Nat.le_of_lt begun
  | payload begun few => exact Nat.le_of_lt (List.getElem?_eq_some_iff.mp begun).1

/-- **The frames that are counted are those that end at the cut or before it.** -/
theorem Truncated.lt_count_iff (truncated : Truncated payloads cut count last) {index : Nat}
    (inside : index < payloads.length) : index < count ↔ offset payloads (index + 1) ≤ cut := by
  obtain ⟨behind, before⟩ := truncated.bounds
  constructor
  · intro counted
    exact Nat.le_trans (offset_mono payloads counted) behind
  · intro ended
    by_contra notCounted
    have reached : count ≤ index := Nat.not_lt.mp notCounted
    have next := before _ (List.getElem?_eq_getElem (Nat.lt_of_le_of_lt reached inside))
    have later := offset_mono payloads (Nat.succ_le_succ reached)
    exact absurd (Nat.lt_of_lt_of_le next later) (Nat.not_lt.mpr ended)

/-- A cut falls somewhere. -/
theorem exists_truncated (within : cut ≤ (encodeAll payloads).length) :
    ∃ count last, Truncated payloads cut count last := by
  -- As many frames are counted as end before the cut.
  obtain ⟨count, counted⟩ : ∃ count,
      Nat.findGreatest (fun count => offset payloads count ≤ cut) payloads.length = count :=
    ⟨_, rfl⟩
  obtain ⟨inside, behind, greatest⟩ := Nat.findGreatest_eq_iff.mp counted
  have behind : offset payloads count ≤ cut := by
    by_cases none : count = 0
    · rw [none]
      exact Nat.zero_le cut
    · exact behind none
  refine ⟨count, ?_⟩
  rcases Nat.eq_or_lt_of_le inside with all | begun
  · have atEnd : offset payloads count = cut := by
      rw [all, offset_length] at behind ⊢
      exact Nat.le_antisymm behind within
    exact ⟨.finished, atEnd ▸ .between inside⟩
  · have found := List.getElem?_eq_getElem begun
    have before : cut < offset payloads (count + 1) :=
      Nat.not_le.mp (greatest (Nat.lt_succ_self count) begun)
    rw [offset_succ found] at before
    obtain ⟨received, rfl⟩ := Nat.exists_eq_add_of_le behind
    by_cases atBoundary : received = 0
    · subst atBoundary
      exact ⟨.finished, .between inside⟩
    by_cases inHeader : received < headerSize
    · exact ⟨_, .header begun (Nat.pos_of_ne_zero atBoundary) inHeader⟩
    · obtain ⟨body, rfl⟩ := Nat.exists_eq_add_of_le (Nat.not_lt.mp inHeader)
      rw [← Nat.add_assoc]
      exact ⟨_, .payload found (by omega)⟩

/-! ### Incomplete frames -/

theorem parse_incomplete_header (maxLength : Nat) {bytes : Bytes} (nonempty : bytes ≠ [])
    (few : bytes.length < headerSize) :
    (parse maxLength some bytes).1 = some (.failed (.midHeader bytes.length)) := by
  rw [parse, if_pos few, if_neg (by simpa using nonempty)]

theorem Admits.markerSize_le {maxLength : Nat} {payload : Bytes}
    (admits : Admits maxLength payload) : markerSize ≤ payload.length := by
  obtain ⟨version, rest, rfl⟩ := hasMarker_iff.mp admits.marker
  exact Nat.le_add_left _ _

/-- A stream that ends within a payload that is let pass, or in front of it. Whether the end is within
the marker makes no difference. -/
theorem parse_incomplete_payload {maxLength : Nat} {payload : Bytes}
    (admits : Admits maxLength payload) {received : Nat} (few : received < payload.length) :
    (parse maxLength some
        (Bytes.bigEndian headerSize payload.length ++ payload.take received)).1 =
      some (.failed (.midFrame received payload.length)) := by
  have header : (Bytes.bigEndian headerSize payload.length).length = headerSize :=
    Bytes.bigEndian_length headerSize payload.length
  have held : (payload.take received).length = received :=
    List.length_take_of_le (Nat.le_of_lt few)
  rw [parse, if_neg (by rw [List.length_append, header]; omega)]
  simp only [List.take_left' header, List.drop_left' header,
    lengthOfHeader_bigEndian admits.sayable]
  rw [if_neg (Nat.not_lt.mpr admits.within), parsePayload, held,
    Nat.min_eq_left admits.markerSize_le]
  by_cases unmarked : received < markerSize
  · rw [if_pos unmarked]
  · have looked : hasMarker ((payload.take received).take markerSize) = true := by
      rw [List.take_take, Nat.min_eq_left (Nat.not_lt.mp unmarked), hasMarker_take]
      exact admits.marker
    have long := Nat.not_lt.mpr admits.markerSize_le
    rw [if_neg unmarked, if_neg (by simp [looked, long]), parseBody, held, if_pos few]

/-! ### Streams that are cut -/

/-- Frames are taken off one after the other, whatever follows them. -/
theorem parseCalls_encodeAll_append {maxLength : Nat}
    (admitted : ∀ payload ∈ payloads, Admits maxLength payload) (calls : Nat) (rest : Bytes) :
    parseCalls maxLength some (payloads.length + calls) (encodeAll payloads ++ rest) =
      payloads.map (fun payload => some (.frame payload)) ++
        parseCalls maxLength some calls rest := by
  induction payloads with
  | nil => simp [encodeAll]
  | cons payload others inductionHypothesis =>
      rw [List.forall_mem_cons] at admitted
      have frames : encodeAll (payload :: others) ++ rest =
          encode payload ++ (encodeAll others ++ rest) := by
        rw [encodeAll, List.flatMap_cons, List.append_assoc]
        rfl
      have calls : (payload :: others).length + calls = others.length + calls + 1 := by
        rw [List.length_cons]
        omega
      rw [calls, frames, parseCalls, parse_encode_append admitted.1]
      simp only [inductionHypothesis admitted.2, List.map_cons, List.cons_append]

/-- A stream that is cut holds the frames before the cut, and the bytes of the rest up to it. -/
theorem take_encodeAll (payloads : List Bytes) (count received : Nat) :
    (encodeAll payloads).take (offset payloads count + received) =
      encodeAll (payloads.take count) ++ (encodeAll (payloads.drop count)).take received := by
  rw [encodeAll_eq_split payloads count]
  exact List.take_length_add_append received

/-- What is left behind the frames before the cut is reported as the cut says. -/
theorem Truncated.parse_eq {maxLength : Nat}
    (admitted : ∀ payload ∈ payloads, Admits maxLength payload)
    (truncated : Truncated payloads cut count last) :
    ∃ rest, (encodeAll payloads).take cut = encodeAll (payloads.take count) ++ rest ∧
      (parse maxLength some rest).1 = some last := by
  cases truncated with
  | between inside => exact ⟨_, take_encodeAll payloads count 0, rfl⟩
  | @header _ received begun positive few =>
      refine ⟨_, take_encodeAll payloads count received, ?_⟩
      have whole : headerSize ≤ (encodeAll (payloads.drop count)).length := by
        rw [drop_eq_cons (List.getElem?_eq_getElem begun), encodeAll, List.flatMap_cons,
          List.length_append, encode_length]
        omega
      have held : ((encodeAll (payloads.drop count)).take received).length = received :=
        List.length_take_of_le (by omega)
      have nonempty := List.ne_nil_of_length_pos (Nat.lt_of_lt_of_eq positive held.symm)
      have parsed := parse_incomplete_header maxLength nonempty (by omega)
      rwa [held] at parsed
  | @payload _ received payload begun few =>
      rw [Nat.add_assoc]
      refine ⟨_, take_encodeAll payloads count (headerSize + received), ?_⟩
      have begins : (encodeAll (payloads.drop count)).take (headerSize + received) =
          Bytes.bigEndian headerSize payload.length ++ payload.take received := by
        have header : (Bytes.bigEndian headerSize payload.length).length = headerSize :=
          Bytes.bigEndian_length headerSize payload.length
        rw [drop_eq_cons begun, encodeAll, List.flatMap_cons, encode, List.append_assoc,
          List.take_append, header, Nat.add_sub_cancel_left,
          List.take_append_of_le_length (Nat.le_of_lt few),
          List.take_of_length_le (Nat.le_trans (Nat.le_of_eq header) (Nat.le_add_right _ _))]
      rw [begins]
      exact parse_incomplete_payload (admitted payload (List.mem_of_getElem? begun)) few

/-- **Every truncation is reported precisely.** The frames of payloads that are let pass, cut anywhere
and read in whatever pieces, are read as the frames that end at the cut or before it. What follows
them is the end where the cut falls between two frames; else it is how many bytes there are of an
incomplete header, or of an incomplete payload and how many there should be. -/
theorem calls_truncated (limits : Limits) {payloads : List Bytes}
    (admitted : ∀ payload ∈ payloads, Admits limits.maxLength payload) {cut : Nat}
    (within : cut ≤ (encodeAll payloads).length) (cuts : List Nat) :
    (∃ count last, Truncated payloads cut count last) ∧
      ∀ count last, Truncated payloads cut count last →
        (∀ index < payloads.length, index < count ↔ offset payloads (index + 1) ≤ cut) ∧
          Reader.calls limits (count + 1)
              (.ofSource ⟨(encodeAll payloads).take cut, cuts, .closed⟩) =
            (payloads.take count).map (fun payload => some (.frame payload)) ++ [some last] := by
  refine ⟨exists_truncated within, fun count last truncated => ⟨fun index inside => ?_, ?_⟩⟩
  · exact truncated.lt_count_iff inside
  · obtain ⟨rest, split, parsed⟩ := truncated.parse_eq admitted
    have read := Reader.calls_rest limits (count + 1) []
      ⟨(encodeAll payloads).take cut, cuts, .closed⟩
    have counted : ∀ payload ∈ payloads.take count, Admits limits.maxLength payload :=
      fun payload member => admitted payload (List.mem_of_mem_take member)
    have frames := parseCalls_encodeAll_append counted 1 rest
    have one : parseCalls limits.maxLength some 1 rest = [some last] := by
      rw [← parsed]
      rfl
    rw [List.length_take_of_le truncated.count_le, ← split, one] at frames
    exact read.trans frames

/-- Two frames that are cut within the marker of the second. -/
theorem calls_truncated_marker :
    let payloads : List Bytes := [[128, 2, 93, 46], [128, 2, 93, 46]]
    (∀ payload ∈ payloads, Admits 4 payload) ∧
      Truncated payloads 14 1 (.failed (.midFrame 2 4)) ∧
        Reader.calls ⟨4, 0, none⟩ 2 (.ofSource ⟨(encodeAll payloads).take 14, [3, 1], .closed⟩) =
          [some (.frame [128, 2, 93, 46]), some (.failed (.midFrame 2 4))] := by
  intro payloads
  have admitted : ∀ payload ∈ payloads, Admits 4 payload := by
    intro payload member
    obtain rfl : payload = [128, 2, 93, 46] := by simpa [payloads] using member
    exact ⟨rfl, by decide, by decide⟩
  have truncated : Truncated payloads 14 1 (.failed (.midFrame 2 4)) :=
    @Truncated.payload payloads 1 2 [128, 2, 93, 46] rfl (by decide)
  have within : 14 ≤ (encodeAll payloads).length := by decide
  have read := (calls_truncated ⟨4, 0, none⟩ admitted within [3, 1]).2 1 _ truncated
  exact ⟨admitted, truncated, read.2⟩

end MetricIntake.Frame
