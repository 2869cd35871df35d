import MetricIntake.Frame.Parse

/-!
Contract: reading a stream in pieces comes to the same as parsing its bytes at once.

Owns:
- what a call comes to from any phase, as a function of the bytes held and the bytes unread;
- agreement of one call of a reader with that function, and of any number of calls with the parser
  of the whole stream.

Does not own: what the parser makes of a well-formed or a truncated stream.

## The invariant

A reader that holds some bytes in some phase is as good as the parser at the same point in front of
the bytes held and the bytes unread together. A phase that settles without a read is at the end of
its call; one that needs a read passes to a phase with the same meaning, and there the bytes of the
read move from the unread ones to the held ones. Nothing else happens, so neither the sizes of the
reads nor their number can show.
-/

set_option autoImplicit false

namespace MetricIntake.Frame

/-! ### The meaning of a phase -/

/-- What the call of a phase comes to in front of the unread bytes, and the bytes left after it. -/
def Phase.parse (maxLength : Nat) (short : Result → Option Result) :
    Phase → (unread : Bytes) → Option Result × Bytes
  | .header held, unread => Frame.parse maxLength short (held ++ unread)
  | .marker length held, unread => parsePayload short length (held ++ unread)
  | .body length held, unread => parseBody short length (held ++ unread)

section Phases

variable (limits : Limits) (short : Result → Option Result)

theorem Phase.parse_receive (phase : Phase) (chunk unread : Bytes) :
    (phase.receive chunk).parse limits.maxLength short unread =
      phase.parse limits.maxLength short (chunk ++ unread) := by
  cases phase <;> simp only [Phase.receive, Phase.parse, List.append_assoc]

/-- What a phase comes to without a read is what its call comes to, and a phase that needs a read
has the meaning of the phase that it passes to. -/
def Phase.DemandMeets (outcome : Bytes → Option Result × Bytes) : Demand → Prop
  | .read phase atMost =>
      0 < atMost ∧ (∀ unread, phase.parse limits.maxLength short unread = outcome unread) ∧
        outcome [] = (short phase.closed, phase.kept)
  | .done result left => ∀ unread, outcome unread = (some result, left ++ unread)

theorem Phase.settleBody_meets (length : Nat) (held : Bytes) :
    Phase.DemandMeets limits short (fun unread => parseBody short length (held ++ unread))
      (Phase.settleBody limits length held) := by
  unfold Phase.settleBody
  by_cases incomplete : held.length < length
  · rw [if_pos incomplete]
    refine ⟨?_, fun _ => rfl, ?_⟩
    · have chunkPositive : 1 ≤ limits.chunk := Nat.le_max_right _ _
      omega
    · simp [parseBody, Phase.closed, Phase.kept, incomplete]
  · rw [if_neg incomplete]
    intro unread
    have enough : length ≤ held.length := by omega
    simp only [parseBody, List.length_append]
    rw [if_neg (by omega), List.take_append_of_le_length enough,
      List.drop_append_of_le_length enough]

theorem Phase.settleMarker_meets (length : Nat) (held : Bytes) :
    Phase.DemandMeets limits short (fun unread => parsePayload short length (held ++ unread))
      (Phase.settleMarker limits length held) := by
  simp only [Phase.settleMarker]
  by_cases incomplete : held.length < min markerSize length
  · rw [if_pos incomplete]
    refine ⟨by omega, fun _ => rfl, ?_⟩
    simp [parsePayload, Phase.closed, Phase.kept, incomplete]
  · rw [if_neg incomplete]
    have enough : min markerSize length ≤ held.length := by omega
    have looked (unread : Bytes) : parsePayload short length (held ++ unread) =
        if length < markerSize ∨ hasMarker (held.take (min markerSize length)) = false then
          (some (.failed (.invalidMarker (held.take (min markerSize length)))), held ++ unread)
        else parseBody short length (held ++ unread) := by
      simp only [parsePayload, List.length_append]
      rw [if_neg (by omega), List.take_append_of_le_length enough]
    simp only [looked]
    by_cases invalid :
        length < markerSize ∨ hasMarker (held.take (min markerSize length)) = false
    · simp only [if_pos invalid]
      intro unread
      rfl
    · simp only [if_neg invalid]
      exact settleBody_meets limits short length held

theorem Phase.settleHeader_meets (held : Bytes) :
    Phase.DemandMeets limits short (fun unread => Frame.parse limits.maxLength short (held ++ unread))
      (Phase.settleHeader limits held) := by
  simp only [Phase.settleHeader]
  by_cases incomplete : held.length < headerSize
  · rw [if_pos incomplete]
    refine ⟨by omega, fun _ => rfl, ?_⟩
    cases held <;> simp_all [Frame.parse, Phase.closed, Phase.kept]
  · rw [if_neg incomplete]
    have enough : headerSize ≤ held.length := by omega
    have taken (unread : Bytes) : Frame.parse limits.maxLength short (held ++ unread) =
        if limits.maxLength < lengthOfHeader (held.take headerSize) then
          (some (.failed (.oversized (lengthOfHeader (held.take headerSize)) limits.maxLength)),
            held.drop headerSize ++ unread)
        else
          parsePayload short (lengthOfHeader (held.take headerSize))
            (held.drop headerSize ++ unread) := by
      simp only [Frame.parse, List.length_append]
      rw [if_neg (by omega), List.take_append_of_le_length enough,
        List.drop_append_of_le_length enough]
    simp only [taken]
    by_cases oversized : limits.maxLength < lengthOfHeader (held.take headerSize)
    · simp only [if_pos oversized]
      intro unread
      rfl
    · simp only [if_neg oversized]
      exact settleMarker_meets limits short _ _

theorem Phase.settle_meets (phase : Phase) :
    Phase.DemandMeets limits short (phase.parse limits.maxLength short) (phase.settle limits) := by
  cases phase with
  | header held => exact settleHeader_meets limits short held
  | marker length held => exact settleMarker_meets limits short length held
  | body length held => exact settleBody_meets limits short length held

/-- A phase that needs a read is settled already: looking at it again comes to the same demand. -/
theorem Phase.settle_settled {phase settled : Phase} {atMost : Nat}
    (demand : phase.settle limits = .read settled atMost) :
    settled.settle limits = .read settled atMost := by
  have body (length : Nat) (held : Bytes)
      (demand : settleBody limits length held = .read settled atMost) :
      settled.settle limits = .read settled atMost := by
    have unfolded := demand
    unfold settleBody at unfolded
    split at unfolded
    · simp only [Demand.read.injEq] at unfolded
      rw [← unfolded.1] at demand ⊢
      exact demand
    · simp at unfolded
  have marker (length : Nat) (held : Bytes)
      (demand : settleMarker limits length held = .read settled atMost) :
      settled.settle limits = .read settled atMost := by
    have unfolded := demand
    simp only [settleMarker] at unfolded
    split at unfolded
    · simp only [Demand.read.injEq] at unfolded
      rw [← unfolded.1] at demand ⊢
      exact demand
    · split at unfolded
      · simp at unfolded
      · exact body length held unfolded
  cases phase with
  | header held =>
      have unfolded : settleHeader limits held = .read settled atMost := demand
      simp only [settleHeader] at unfolded
      split at unfolded
      · simp only [Demand.read.injEq] at unfolded
        rw [← unfolded.1] at demand ⊢
        exact demand
      · split at unfolded
        · simp at unfolded
        · exact marker _ _ unfolded
  | marker length held => exact marker length held demand
  | body length held => exact body length held demand

end Phases

/-! ### One call -/

theorem Source.read?_eq_none_iff {source : Source} {wanted : Nat} :
    source.read? wanted = none ↔ source.unread = [] := by
  cases hUnread : source.unread <;> simp [read?, hUnread]

theorem Source.read?_ending {source rest : Source} {wanted : Nat} {chunk : Bytes}
    (outcome : source.read? wanted = some (chunk, rest)) : rest.ending = source.ending := by
  unfold read? at outcome
  split at outcome
  · simp at outcome
  · simp only [Option.some.injEq, Prod.mk.injEq] at outcome
    rw [← outcome.2]

namespace Reader

/-- What a reader does with a phase that lacks bytes is what the parser makes of the shortage, and
what it keeps is what the parser leaves. -/
theorem exhausted_parses (limits : Limits) (phase : Phase) (source : Source) :
    (exhausted limits phase source).1 =
        shortage limits.readTimeout source.ending phase.closed ∧
      ((exhausted limits phase source).1 = none ∨
        (exhausted limits phase source).2 = rest phase.kept source) := by
  unfold exhausted shortage
  cases source.ending with
  | pending => exact ⟨rfl, Or.inl rfl⟩
  | closed => exact ⟨rfl, Or.inr rfl⟩
  | failed message => exact ⟨rfl, Or.inr rfl⟩
  | silent =>
      cases limits.readTimeout with
      | none => exact ⟨rfl, Or.inl rfl⟩
      | some limit => exact ⟨rfl, Or.inr rfl⟩

/-- One call of a reader comes to what the parser makes of the bytes held and unread, and leaves the
bytes that the parser leaves. -/
theorem next_parses (limits : Limits) (reader : Reader) :
    (reader.next limits).1 =
        (reader.phase.parse limits.maxLength
          (shortage limits.readTimeout reader.source.ending) reader.source.unread).1 ∧
      ((reader.next limits).1 = none ∨
        ∃ left source, (reader.next limits).2 = rest left source ∧
          source.ending = reader.source.ending ∧
          left ++ source.unread =
            (reader.phase.parse limits.maxLength
              (shortage limits.readTimeout reader.source.ending) reader.source.unread).2) := by
  fun_induction next limits reader with
  | case1 reader result left settled =>
      have meets := Phase.settle_meets limits
        (shortage limits.readTimeout reader.source.ending) reader.phase
      rw [settled] at meets
      rw [meets reader.source.unread]
      exact ⟨rfl, Or.inr ⟨left, reader.source, rfl, rfl, rfl⟩⟩
  | case2 reader phase atMost settled empty =>
      have meets := Phase.settle_meets limits
        (shortage limits.readTimeout reader.source.ending) reader.phase
      rw [settled] at meets
      have nothing : reader.source.unread = [] := Source.read?_eq_none_iff.mp empty
      obtain ⟨result, left⟩ := exhausted_parses limits phase reader.source
      rw [nothing, meets.2.2]
      refine ⟨result, left.imp_right fun kept => ?_⟩
      exact ⟨phase.kept, reader.source, kept, rfl, by rw [nothing, List.append_nil]⟩
  | case3 reader phase atMost settled chunk source given inductionHypothesis =>
      have meets := Phase.settle_meets limits
        (shortage limits.readTimeout reader.source.ending) reader.phase
      rw [settled] at meets
      have same : (phase.receive chunk).parse limits.maxLength
            (shortage limits.readTimeout reader.source.ending) source.unread =
          reader.phase.parse limits.maxLength
            (shortage limits.readTimeout reader.source.ending) reader.source.unread := by
        rw [Phase.parse_receive, Source.read?_unread given, meets.2.1]
      simp only [Source.read?_ending given, same] at inductionHypothesis
      exact inductionHypothesis

theorem exhausted_waits {limits : Limits} {phase : Phase} {source : Source} {after : Reader}
    (outcome : exhausted limits phase source = (none, after)) : after = ⟨phase, source⟩ := by
  unfold exhausted at outcome
  cases ending : source.ending with
  | pending => simpa [ending, eq_comm] using outcome
  | closed => simp [ending] at outcome
  | failed message => simp [ending] at outcome
  | silent =>
      cases timeout : limits.readTimeout with
      | none => simpa [ending, timeout, eq_comm] using outcome
      | some limit => simp [ending, timeout] at outcome

/-- A call that never returns is still the same call when it is looked at again. -/
theorem next_waits {limits : Limits} {reader after : Reader}
    (outcome : reader.next limits = (none, after)) : after.next limits = (none, after) := by
  fun_induction next limits reader with
  | case1 reader result left settled => simp at outcome
  | case2 reader phase atMost settled empty =>
      obtain rfl := exhausted_waits outcome
      rw [next, Phase.settle_settled limits settled]
      split
      · rename_i demand
        simp at demand
      · rename_i demand
        simp only [Demand.read.injEq] at demand
        split
        · rw [← demand.1]
          exact outcome
        · rename_i given
          simp [← demand.2, empty] at given
  | case3 reader phase atMost settled chunk source given inductionHypothesis =>
      exact inductionHypothesis outcome

end Reader

/-! ### Any number of calls -/

/-- Whether a stream that lacks bytes comes to anything does not depend on the result that its close
would have had. -/
theorem shortage_eq_none {readTimeout : Option Span} {ending : Ending} {first : Result}
    (nothing : shortage readTimeout ending first = none) (second : Result) :
    shortage readTimeout ending second = none := by
  cases ending with
  | pending => rfl
  | closed => simp [shortage] at nothing
  | failed message => simp [shortage] at nothing
  | silent => simpa [shortage] using nothing

/-- What it means for a parser to come to nothing: a shortage is to blame, and fewer bytes are left
than a header has. -/
def Waits (short : Result → Option Result) (outcome : Option Result × Bytes) : Prop :=
  outcome.1 = none → outcome.2.length < headerSize ∧ ∃ result, short result = none

theorem parseBody_waiting (short : Result → Option Result) (length : Nat) (bytes : Bytes) :
    Waits short (parseBody short length bytes) := by
  unfold parseBody
  split
  · exact fun nothing => ⟨by simp [headerSize], _, nothing⟩
  · exact fun nothing => absurd nothing (Option.some_ne_none _)

theorem parsePayload_waiting (short : Result → Option Result) (length : Nat) (bytes : Bytes) :
    Waits short (parsePayload short length bytes) := by
  simp only [parsePayload]
  split
  · rename_i unmarked
    refine fun nothing => ⟨?_, _, nothing⟩
    simp only [markerSize, headerSize] at *
    omega
  · split
    · exact fun nothing => absurd nothing (Option.some_ne_none _)
    · exact parseBody_waiting short length bytes

theorem parse_waiting (maxLength : Nat) (short : Result → Option Result) (bytes : Bytes) :
    Waits short (parse maxLength short bytes) := by
  simp only [parse]
  split
  · rename_i incomplete
    exact fun nothing => ⟨incomplete, _, nothing⟩
  · split
    · exact fun nothing => absurd nothing (Option.some_ne_none _)
    · exact parsePayload_waiting short _ _

/-- A parser that is told of every shortage comes to something. -/
theorem parse_some_ne_none (maxLength : Nat) (bytes : Bytes) :
    (parse maxLength some bytes).1 ≠ none := by
  intro nothing
  obtain ⟨-, result, short⟩ := parse_waiting maxLength some bytes nothing
  exact Option.some_ne_none result short

/-- A parser that comes to nothing for want of bytes comes to nothing on what it leaves as well. -/
theorem parse_waits {maxLength : Nat} {readTimeout : Option Span} {ending : Ending} {bytes : Bytes}
    (waits : (parse maxLength (shortage readTimeout ending) bytes).1 = none) :
    (parse maxLength (shortage readTimeout ending)
      (parse maxLength (shortage readTimeout ending) bytes).2).1 = none := by
  obtain ⟨few, result, nothing⟩ := parse_waiting _ _ _ waits
  rw [parse, if_pos few]
  exact shortage_eq_none nothing _

theorem parseCalls_of_waiting {maxLength : Nat} {readTimeout : Option Span} {ending : Ending}
    (calls : Nat) {bytes : Bytes}
    (waits : (parse maxLength (shortage readTimeout ending) bytes).1 = none) :
    parseCalls maxLength (shortage readTimeout ending) calls bytes = List.replicate calls none := by
  induction calls generalizing bytes with
  | zero => rfl
  | succ calls inductionHypothesis =>
      simp only [parseCalls, waits, List.replicate_succ, inductionHypothesis (parse_waits waits)]

/-- One call on a closed stream comes to what the parser makes of the bytes left and unread. -/
theorem Reader.next_of_closed (limits : Limits) (left : Bytes) {source : Source}
    (closed : source.ending = .closed) :
    ∃ left' source', Reader.next limits (rest left source) =
        ((parse limits.maxLength some (left ++ source.unread)).1, rest left' source') ∧
      source'.ending = .closed ∧
      left' ++ source'.unread = (parse limits.maxLength some (left ++ source.unread)).2 := by
  have unchanged : (rest left source).source = source := rfl
  have told : shortage limits.readTimeout .closed = some := rfl
  have parsed : (rest left source).phase.parse limits.maxLength some source.unread =
      parse limits.maxLength some (left ++ source.unread) := rfl
  obtain ⟨result, after⟩ := next_parses limits (rest left source)
  simp only [unchanged, closed, told, parsed] at result after
  rcases after with waits | ⟨left', source', atRest, ending, bytesLeft⟩
  · exact absurd (result.symm.trans waits) (parse_some_ne_none _ _)
  · exact ⟨left', source', Prod.ext result atRest, ending, bytesLeft⟩

theorem Reader.calls_of_waiting {limits : Limits} (calls : Nat) {reader : Reader}
    (waits : reader.next limits = (none, reader)) :
    Reader.calls limits calls reader = List.replicate calls none := by
  induction calls with
  | zero => rfl
  | succ calls inductionHypothesis =>
      simp only [Reader.calls, waits, List.replicate_succ, inductionHypothesis]

/-- A reader between two calls gives the results of the parser on the bytes left and unread. -/
theorem Reader.calls_rest (limits : Limits) (calls : Nat) (left : Bytes) (source : Source) :
    Reader.calls limits calls (rest left source) =
      parseCalls limits.maxLength (shortage limits.readTimeout source.ending) calls
        (left ++ source.unread) := by
  induction calls generalizing left source with
  | zero => rfl
  | succ calls inductionHypothesis =>
      obtain ⟨result, after⟩ := next_parses limits (rest left source)
      have parsed : (rest left source).phase.parse limits.maxLength
          (shortage limits.readTimeout source.ending) source.unread =
            parse limits.maxLength (shortage limits.readTimeout source.ending)
              (left ++ source.unread) := rfl
      have unchanged : (rest left source).source = source := rfl
      rw [unchanged, parsed] at result
      simp only [unchanged, parsed] at after
      rcases after with waits | ⟨left', source', atRest, ending, bytesLeft⟩
      · rw [parseCalls_of_waiting (calls + 1) (result ▸ waits)]
        have stays := next_waits (Prod.ext waits rfl : (rest left source).next limits = (none, _))
        simp only [Reader.calls, waits, calls_of_waiting calls stays, List.replicate_succ]
      · simp only [Reader.calls, parseCalls]
        rw [result, atRest, inductionHypothesis left' source', ending, bytesLeft]

/-- **Neither the cuts of a stream nor the size of a read can be noticed.** Any number of calls of a
reader, also of calls after errors, gives what the parser makes of the bytes of the stream, the
greatest length and what becomes of a shortage. -/
theorem calls_eq_parseCalls (maxLength chunkSize : Nat) (readTimeout : Option Span) (bytes : Bytes)
    (cuts : List Nat) (ending : Ending) (calls : Nat) :
    Reader.calls ⟨maxLength, chunkSize, readTimeout⟩ calls (.ofSource ⟨bytes, cuts, ending⟩) =
      parseCalls maxLength (shortage readTimeout ending) calls bytes :=
  Reader.calls_rest ⟨maxLength, chunkSize, readTimeout⟩ calls [] ⟨bytes, cuts, ending⟩

end MetricIntake.Frame
