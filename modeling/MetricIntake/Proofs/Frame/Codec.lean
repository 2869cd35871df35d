import MetricIntake.Proofs.Frame.Delivery

/-!
Contract: framing is an exact codec.

Owns:
- the bytes from which a parser takes a frame off, which are the frame of an admitted payload in
  front of the bytes that are left;
- the bytes on which a parser finds the end, which are none;
- the closed streams that are read as given frames and nothing else.

Does not own: streams that end in an error.

## Both directions

That a written frame is read back says nothing about a stream that no sender has written. Here the
header, the limit and the marker are taken back from a successful parse: the four bytes in front of a
frame are the only ones that say its length, so a stream that is read to its end without an error
was written as the frames that came out of it.
-/

set_option autoImplicit false

namespace MetricIntake.Frame

/-! ### What a frame was taken from -/

theorem hasMarker_take (payload : Bytes) :
    hasMarker (payload.take markerSize) = hasMarker payload := by
  rw [Bool.eq_iff_iff, hasMarker_iff, hasMarker_iff]
  match payload with
  | [] => exact .rfl
  | [_] => exact .rfl
  | [_, _] => exact .rfl
  | _ :: _ :: _ :: _ => simp [markerSize]

theorem bigEndian_lengthOfHeader {header : Bytes} (complete : header.length = headerSize) :
    Bytes.bigEndian headerSize (lengthOfHeader header) = header := by
  rw [← complete]
  exact Bytes.bigEndian_ofBigEndian header

theorem lengthOfHeader_le {header : Bytes} (complete : header.length = headerSize) :
    lengthOfHeader header ≤ greatestLength := by
  have bounded := Bytes.ofBigEndian_lt header
  rw [complete] at bounded
  exact Nat.le_of_lt_succ bounded

theorem parseBody_eq_frame {length : Nat} {bytes payload left : Bytes}
    (outcome : parseBody some length bytes = (some (.frame payload), left)) :
    payload.length = length ∧ bytes = payload ++ left := by
  unfold parseBody at outcome
  split at outcome
  · simp at outcome
  · rename_i complete
    simp only [Prod.mk.injEq, Option.some.injEq, Result.frame.injEq] at outcome
    obtain ⟨rfl, rfl⟩ := outcome
    refine ⟨?_, (List.take_append_drop length bytes).symm⟩
    rw [List.length_take]
    omega

theorem parsePayload_eq_frame {length : Nat} {bytes payload left : Bytes}
    (outcome : parsePayload some length bytes = (some (.frame payload), left)) :
    hasMarker payload = true ∧ payload.length = length ∧ bytes = payload ++ left := by
  simp only [parsePayload] at outcome
  split at outcome
  · simp at outcome
  · split at outcome
    · simp at outcome
    · rename_i marked
      obtain ⟨size, rfl⟩ := parseBody_eq_frame outcome
      refine ⟨?_, size, rfl⟩
      have long : markerSize ≤ length := Nat.le_of_not_lt fun short => marked (.inl short)
      have looked : (payload ++ left).take (min markerSize length) = payload.take markerSize := by
        rw [Nat.min_eq_left long, List.take_append_of_le_length (by omega)]
      rw [looked, hasMarker_take] at marked
      simpa using fun unmarked => marked (.inr unmarked)

/-- **A parser takes exactly the written frames off**: the bytes in front of those that are left are
the frame of an admitted payload. -/
theorem parse_eq_frame_iff {maxLength : Nat} {bytes payload left : Bytes} :
    parse maxLength some bytes = (some (.frame payload), left) ↔
      Admits maxLength payload ∧ bytes = encode payload ++ left := by
  constructor
  · intro outcome
    -- Of a short header, a length beyond the limit and a payload only the last gives a frame.
    simp only [parse] at outcome
    split at outcome
    · split at outcome <;> simp at outcome
    · rename_i complete
      have header : (bytes.take headerSize).length = headerSize := by
        rw [List.length_take]
        omega
      split at outcome
      · simp at outcome
      · rename_i within
        obtain ⟨marker, size, rest⟩ := parsePayload_eq_frame outcome
        refine ⟨⟨marker, by omega, size ▸ lengthOfHeader_le header⟩, ?_⟩
        rw [encode, size, bigEndian_lengthOfHeader header, List.append_assoc, ← rest,
          List.take_append_drop]
  · rintro ⟨admits, rfl⟩
    exact parse_encode_append admits some left

/-- A parser finds the end only where no byte is left. -/
theorem parse_eq_finished_iff {maxLength : Nat} {bytes left : Bytes} :
    parse maxLength some bytes = (some .finished, left) ↔ bytes = [] ∧ left = [] := by
  constructor
  · intro outcome
    simp only [parse] at outcome
    split at outcome
    · cases bytes with
      | nil => simpa [eq_comm] using outcome
      | cons byte rest => simp at outcome
    · split at outcome
      · simp at outcome
      · simp only [parsePayload, parseBody] at outcome
        split at outcome
        · simp at outcome
        · split at outcome
          · simp at outcome
          · split at outcome <;> simp at outcome
  · rintro ⟨rfl, rfl⟩
    rfl

theorem length_lt_of_parse_frame {maxLength : Nat} {bytes payload left : Bytes}
    (outcome : parse maxLength some bytes = (some (.frame payload), left)) :
    left.length < bytes.length := by
  obtain ⟨-, rfl⟩ := parse_eq_frame_iff.mp outcome
  rw [List.length_append, encode_length]
  simp only [headerSize]
  omega

/-! ### Whole streams -/

theorem parseCalls_eq_frames_iff {maxLength : Nat} {bytes : Bytes} {payloads : List Bytes} :
    parseCalls maxLength some (payloads.length + 1) bytes =
        payloads.map (fun payload => some (.frame payload)) ++ [some .finished] ↔
      bytes = encodeAll payloads ∧ ∀ payload ∈ payloads, Admits maxLength payload := by
  induction payloads generalizing bytes with
  | nil =>
      have ends : (parse maxLength some bytes).1 = some .finished ↔ bytes = [] := by
        constructor
        · intro finished
          exact (parse_eq_finished_iff.mp (Prod.ext finished rfl)).1
        · rintro rfl
          rfl
      simpa [parseCalls, encodeAll] using ends
  | cons payload others inductionHypothesis =>
      have split : parseCalls maxLength some (others.length + 1 + 1) bytes =
            some (.frame payload) ::
              (others.map (fun payload => some (.frame payload)) ++ [some .finished]) ↔
          ∃ left, parse maxLength some bytes = (some (.frame payload), left) ∧
            parseCalls maxLength some (others.length + 1) left =
              others.map (fun payload => some (.frame payload)) ++ [some .finished] := by
        rw [parseCalls, List.cons_eq_cons]
        constructor
        · rintro ⟨first, later⟩
          exact ⟨_, Prod.ext first rfl, later⟩
        · rintro ⟨left, first, later⟩
          rw [first]
          exact ⟨rfl, later⟩
      rw [List.length_cons, List.map_cons, List.cons_append, split, List.forall_mem_cons]
      constructor
      · rintro ⟨left, first, later⟩
        obtain ⟨admits, rfl⟩ := parse_eq_frame_iff.mp first
        obtain ⟨rfl, allAdmitted⟩ := inductionHypothesis.mp later
        exact ⟨rfl, admits, allAdmitted⟩
      · rintro ⟨rfl, admits, allAdmitted⟩
        exact ⟨encodeAll others, parse_eq_frame_iff.mpr ⟨admits, rfl⟩,
          inductionHypothesis.mpr ⟨rfl, allAdmitted⟩⟩

/-- **Framing is an exact codec.** A closed stream, however it is cut and whatever the size of a
read, is read as some frames and then its end if and only if it is the frames of these payloads, one
after the other, and each of them is let pass: it has the marker and is within the limit, and its
length can be written in a header at all. -/
theorem calls_eq_frames_iff (limits : Limits) (bytes : Bytes) (cuts : List Nat)
    (payloads : List Bytes) :
    Reader.calls limits (payloads.length + 1) (.ofSource ⟨bytes, cuts, .closed⟩) =
        payloads.map (fun payload => some (.frame payload)) ++ [some .finished] ↔
      bytes = encodeAll payloads ∧ ∀ payload ∈ payloads, Admits limits.maxLength payload := by
  have parsed := Reader.calls_rest limits (payloads.length + 1) [] ⟨bytes, cuts, .closed⟩
  have closed : shortage limits.readTimeout .closed = some := rfl
  rw [closed, List.nil_append] at parsed
  rw [← parseCalls_eq_frames_iff, ← parsed]
  rfl

end MetricIntake.Frame
