import MetricIntake.Proofs.Bytes
import MetricIntake.Proofs.Frame.Resumption

/-!
Contract: a frame that was written is read back, and nothing after it is touched.

Owns:
- the payloads that a connection lets pass: those with the marker, within the limit;
- parsing the frame of such a payload in front of other bytes;
- the same for one call of a reader, however the stream is cut.

Does not own: streams that end within a frame.
-/

set_option autoImplicit false

namespace MetricIntake.Frame

/-- A payload that a reader gives out: it starts as a batch does and is within the limit, and a
header can say its length. -/
structure Admits (maxLength : Nat) (payload : Bytes) : Prop where
  marker : hasMarker payload = true
  within : payload.length ≤ maxLength
  sayable : payload.length ≤ greatestLength

theorem hasMarker_iff {payload : Bytes} :
    hasMarker payload = true ↔ ∃ version rest, payload = 0x80 :: version :: 0x5D :: rest := by
  constructor
  · intro marker
    unfold hasMarker at marker
    split at marker
    · exact ⟨_, _, rfl⟩
    · simp at marker
  · rintro ⟨version, rest, rfl⟩
    rfl

theorem lengthOfHeader_bigEndian {length : Nat} (sayable : length ≤ greatestLength) :
    lengthOfHeader (Bytes.bigEndian headerSize length) = length :=
  Bytes.ofBigEndian_bigEndian (Nat.lt_succ_of_le sayable)

theorem parseBody_append (short : Result → Option Result) (payload rest : Bytes) :
    parseBody short payload.length (payload ++ rest) = (some (.frame payload), rest) := by
  rw [parseBody, if_neg (by rw [List.length_append]; omega), List.take_left, List.drop_left]

/-- The frame of a payload that a reader gives out is taken off, whatever follows it. -/
theorem parse_encode_append {maxLength : Nat} {payload : Bytes}
    (admits : Admits maxLength payload) (short : Result → Option Result) (rest : Bytes) :
    parse maxLength short (encode payload ++ rest) = (some (.frame payload), rest) := by
  have header : (Bytes.bigEndian headerSize payload.length).length = headerSize :=
    Bytes.bigEndian_length headerSize payload.length
  have taken : (encode payload ++ rest).take headerSize =
      Bytes.bigEndian headerSize payload.length := by
    rw [encode, List.append_assoc]
    exact List.take_left' header
  have dropped : (encode payload ++ rest).drop headerSize = payload ++ rest := by
    rw [encode, List.append_assoc]
    exact List.drop_left' header
  have complete : ¬ (encode payload ++ rest).length < headerSize := by
    rw [List.length_append, encode_length]
    omega
  rw [parse, if_neg complete]
  simp only [taken, dropped, lengthOfHeader_bigEndian admits.sayable]
  rw [if_neg (Nat.not_lt.mpr admits.within)]
  obtain ⟨version, tail, shape⟩ := hasMarker_iff.mp admits.marker
  have marked : markerSize ≤ payload.length := by
    rw [shape]
    simp [markerSize]
  have seen : (payload ++ rest).take (min markerSize payload.length) = [0x80, version, 0x5D] := by
    rw [Nat.min_eq_left marked, shape]
    rfl
  rw [parsePayload, seen, if_neg (by rw [List.length_append]; omega), if_neg ?_]
  · exact parseBody_append short payload rest
  · rintro (tooShort | unmarked)
    · omega
    · simp [hasMarker] at unmarked

/-- **One call takes off one frame**, whatever was read ahead and however the stream is cut. -/
theorem Reader.next_encode_append {limits : Limits} {left payload rest : Bytes} {source : Source}
    (admits : Admits limits.maxLength payload)
    (ahead : left ++ source.unread = encode payload ++ rest) :
    ∃ left' source', Reader.next limits (.rest left source) =
        (some (.frame payload), .rest left' source') ∧
      source'.ending = source.ending ∧ left' ++ source'.unread = rest := by
  have parsed : (Reader.rest left source).phase.parse limits.maxLength
      (shortage limits.readTimeout source.ending) source.unread =
        (some (.frame payload), rest) := by
    show parse limits.maxLength _ (left ++ source.unread) = _
    rw [ahead]
    exact parse_encode_append admits _ rest
  obtain ⟨result, after⟩ := next_parses limits (.rest left source)
  have unchanged : (Reader.rest left source).source = source := rfl
  simp only [unchanged, parsed] at result after
  rcases after with waits | ⟨left', source', atRest, ending, bytesLeft⟩
  · rw [result] at waits
    simp at waits
  · exact ⟨left', source', Prod.ext result atRest, ending, bytesLeft⟩

theorem Reader.next_closed {limits : Limits} {left : Bytes} {source : Source}
    (closed : source.ending = .closed) (nothing : left ++ source.unread = []) :
    (Reader.next limits (.rest left source)).1 = some .finished := by
  obtain ⟨result, -⟩ := next_parses limits (.rest left source)
  rw [result]
  show (parse limits.maxLength (shortage limits.readTimeout source.ending)
    (left ++ source.unread)).1 = _
  rw [nothing, closed]
  rfl

end MetricIntake.Frame
