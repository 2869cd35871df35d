import MetricIntake.Proofs.Pipeline.Run
import MetricIntake.Proofs.Sample
import MetricIntake.Proofs.Watermarks

/-!
Contract: what becomes of samples one after the other.

Owns:
- the latest timestamp of a path among some samples;
- the samples that are passed on and the entries in quarantine of the others;
- agreement of the checks with these, along a whole run of samples.

Does not own: how samples get to a pipeline.

## What the marks stand for

The marks of a pipeline hold one timestamp for a path, and a sample that is refused leaves it where
it is. They still stand for all samples before: the mark of a path is the latest timestamp among the
samples of that path, refused ones included, because a sample is refused only when it is not later.
-/

set_option autoImplicit false

namespace MetricIntake

namespace Sample

/-- The latest timestamp of a path among some samples. -/
def latest? (path : String) : List Sample → Option UInt32
  | [] => none
  | sample :: others =>
      if sample.path = path then
        match latest? path others with
        | some last => some (if last < sample.timestamp then sample.timestamp else last)
        | none => some sample.timestamp
      else latest? path others

def IsLatest (earlier : List Sample) (sample : Sample) : Prop :=
  ∀ other ∈ earlier, other.path = sample.path → other.timestamp < sample.timestamp

instance (earlier : List Sample) (sample : Sample) : Decidable (sample.IsLatest earlier) :=
  inferInstanceAs (Decidable (∀ other ∈ earlier, _ → _))

def outcome (ordered : Bool) (earlier : List Sample) (sample : Sample) : ItemOutcome :=
  if ordered = false ∨ sample.IsLatest earlier then .dispatched sample.metric
  else
    .outOfOrder sample.line sample.path
      ⟨sample.timestamp, (latest? sample.path earlier).getD 0⟩

/-- What becomes of samples one after the other. The earlier ones stand with the latest first. -/
def outcomes (ordered : Bool) (earlier : List Sample) : List Sample → List ItemOutcome
  | [] => []
  | sample :: later =>
      sample.outcome ordered earlier :: outcomes ordered (sample :: earlier) later

/-- The samples that are passed on: all of them where order does not matter, else those that come
after every earlier one of their path. -/
def delivered (ordered : Bool) (earlier : List Sample) : List Sample → List Sample
  | [] => []
  | sample :: later =>
      if ordered = false ∨ sample.IsLatest earlier then
        sample :: delivered ordered (sample :: earlier) later
      else delivered ordered (sample :: earlier) later

def refused (ordered : Bool) (earlier : List Sample) : List Sample → List Rejection
  | [] => []
  | sample :: later =>
      if ordered = false ∨ sample.IsLatest earlier then
        refused ordered (sample :: earlier) later
      else
        ⟨sample.path, sample.line,
          .order ⟨sample.timestamp, (latest? sample.path earlier).getD 0⟩⟩ ::
            refused ordered (sample :: earlier) later

theorem outcomes_length (ordered : Bool) (earlier samples : List Sample) :
    (outcomes ordered earlier samples).length = samples.length := by
  induction samples generalizing earlier with
  | nil => rfl
  | cons sample later inductionHypothesis =>
      rw [outcomes, List.length_cons, List.length_cons, inductionHypothesis]

theorem outcomes_metrics (ordered : Bool) (earlier samples : List Sample) :
    (outcomes ordered earlier samples).filterMap ItemOutcome.metric =
      (delivered ordered earlier samples).map metric := by
  induction samples generalizing earlier with
  | nil => rfl
  | cons sample later inductionHypothesis =>
      rw [outcomes, outcome, delivered]
      by_cases passes : ordered = false ∨ sample.IsLatest earlier
      · rw [if_pos passes, if_pos passes, List.map_cons, ← inductionHypothesis]
        rfl
      · rw [if_neg passes, if_neg passes, ← inductionHypothesis]
        rfl

theorem outcomes_rejections (ordered : Bool) (earlier samples : List Sample) :
    (outcomes ordered earlier samples).filterMap ItemOutcome.rejection =
      refused ordered earlier samples := by
  induction samples generalizing earlier with
  | nil => rfl
  | cons sample later inductionHypothesis =>
      rw [outcomes, outcome, refused]
      by_cases passes : ordered = false ∨ sample.IsLatest earlier
      · rw [if_pos passes, if_pos passes, ← inductionHypothesis]
        rfl
      · rw [if_neg passes, if_neg passes, ← inductionHypothesis]
        rfl

theorem outcomes_counts (ordered : Bool) (earlier samples : List Sample) :
    (outcomes ordered earlier samples).countP ItemOutcome.isInvalid = 0 ∧
      (outcomes ordered earlier samples).countP ItemOutcome.isOutOfOrder =
        (refused ordered earlier samples).length := by
  induction samples generalizing earlier with
  | nil => exact ⟨rfl, rfl⟩
  | cons sample later inductionHypothesis =>
      obtain ⟨invalid, late⟩ := inductionHypothesis (sample :: earlier)
      rw [outcomes, outcome, refused]
      by_cases passes : ordered = false ∨ sample.IsLatest earlier
      · rw [if_pos passes, if_pos passes]
        exact ⟨invalid, late⟩
      · rw [if_neg passes, if_neg passes, List.length_cons, ← late]
        exact ⟨invalid, List.countP_cons_of_pos rfl⟩

theorem latest?_eq_none_iff {path : String} {samples : List Sample} :
    latest? path samples = none ↔ ∀ sample ∈ samples, sample.path ≠ path := by
  induction samples with
  | nil => simp [latest?]
  | cons sample others inductionHypothesis =>
      rw [latest?, List.forall_mem_cons]
      by_cases same : sample.path = path
      · rw [if_pos same]
        cases latest? path others <;> simp [same]
      · rw [if_neg same, inductionHypothesis]
        exact ⟨fun rest => ⟨same, rest⟩, fun both => both.2⟩

/-- The latest timestamp of a path is that of one of its samples, and none of them is later. -/
theorem latest?_eq_some {path : String} {samples : List Sample} {last : UInt32}
    (found : latest? path samples = some last) :
    (∃ sample ∈ samples, sample.path = path ∧ sample.timestamp = last) ∧
      ∀ sample ∈ samples, sample.path = path → sample.timestamp ≤ last := by
  induction samples generalizing last with
  | nil => simp [latest?] at found
  | cons sample others inductionHypothesis =>
      rw [latest?] at found
      by_cases same : sample.path = path
      · rw [if_pos same] at found
        cases before : latest? path others with
        | none =>
            have alone := latest?_eq_none_iff.mp before
            simp only [before, Option.some.injEq] at found
            refine ⟨⟨sample, List.mem_cons_self, same, found⟩, fun other member otherPath => ?_⟩
            rcases List.mem_cons.mp member with rfl | inOthers
            · exact found ▸ UInt32.le_refl _
            · exact absurd otherPath (alone other inOthers)
        | some last' =>
            obtain ⟨⟨holder, held, holderPath, holderLast⟩, bound⟩ := inductionHypothesis before
            simp only [before, Option.some.injEq] at found
            by_cases later : last' < sample.timestamp
            · rw [if_pos later] at found
              refine ⟨⟨sample, List.mem_cons_self, same, found⟩, fun other member otherPath => ?_⟩
              rcases List.mem_cons.mp member with rfl | inOthers
              · exact found ▸ UInt32.le_refl _
              · exact UInt32.le_trans (bound other inOthers otherPath)
                  (found ▸ UInt32.le_of_lt later)
            · rw [if_neg later] at found
              subst found
              refine ⟨⟨holder, List.mem_cons_of_mem _ held, holderPath, holderLast⟩,
                fun other member otherPath => ?_⟩
              rcases List.mem_cons.mp member with rfl | inOthers
              · exact UInt32.not_lt.mp later
              · exact bound other inOthers otherPath
      · rw [if_neg same] at found
        obtain ⟨⟨holder, held, holderPath, holderLast⟩, bound⟩ := inductionHypothesis found
        refine ⟨⟨holder, List.mem_cons_of_mem _ held, holderPath, holderLast⟩,
          fun other member otherPath => ?_⟩
        rcases List.mem_cons.mp member with rfl | inOthers
        · exact absurd otherPath same
        · exact bound other inOthers otherPath

theorem isLatest_iff {earlier : List Sample} {sample : Sample} :
    sample.IsLatest earlier ↔
      ∀ last, latest? sample.path earlier = some last → last < sample.timestamp := by
  constructor
  · intro latest last found
    obtain ⟨⟨holder, held, holderPath, rfl⟩, -⟩ := latest?_eq_some found
    exact latest holder held holderPath
  · intro beyond other member otherPath
    cases found : latest? sample.path earlier with
    | none => exact absurd otherPath (latest?_eq_none_iff.mp found other member)
    | some last =>
        exact UInt32.lt_of_le_of_lt ((latest?_eq_some found).2 other member otherPath)
          (beyond last found)

end Sample

/-! ### The checks on samples -/

namespace Pipeline

/-- The marks hold the latest timestamps of some samples. -/
def Remembers (earlier : List Sample) (marks : Watermarks) : Prop :=
  ∀ path, marks.last? path = Sample.latest? path earlier

theorem Remembers.set {earlier : List Sample} {marks : Watermarks} {sample : Sample}
    (remembers : Remembers earlier marks) (latest : sample.IsLatest earlier) :
    Remembers (sample :: earlier) (marks.set sample.path sample.timestamp) := by
  intro path
  rw [Watermarks.last?_set, Sample.latest?]
  by_cases same : sample.path = path
  · subst same
    rw [if_pos rfl, if_pos rfl]
    cases found : Sample.latest? sample.path earlier with
    | none => rfl
    | some last =>
        simp only [if_pos (Sample.isLatest_iff.mp latest last found)]
  · rw [if_neg (Ne.symm same), if_neg same]
    exact remembers path

theorem Remembers.keep {earlier : List Sample} {marks : Watermarks} {sample : Sample}
    (remembers : Remembers earlier marks) {last : UInt32}
    (found : Sample.latest? sample.path earlier = some last) (late : ¬ last < sample.timestamp) :
    Remembers (sample :: earlier) marks := by
  intro path
  rw [Sample.latest?]
  by_cases same : sample.path = path
  · subst same
    rw [if_pos rfl, remembers, found]
    simp only [if_neg late]
  · rw [if_neg same]
    exact remembers path

theorem judge_item {config : Config} {sample : Sample}
    (acceptable : sample.IsAcceptable config.policy) (marks : Watermarks) :
    judge config marks sample.item =
      if config.validateOrder then
        match marks.advance sample.path sample.timestamp with
        | .error error => (.outOfOrder sample.line sample.path error, marks)
        | .ok advanced => (.dispatched sample.metric, advanced)
      else (.dispatched sample.metric, marks) := by
  rw [judge, Sample.ofItem_item]
  simp only [Sample.observation_line, Sample.read_line acceptable]
  rfl

/-- Without order no sample is too late, and with it the marks say which one is. -/
theorem judge_sample {config : Config} {marks : Watermarks} {earlier : List Sample}
    (remembers : config.validateOrder = true → Remembers earlier marks) {sample : Sample}
    (acceptable : sample.IsAcceptable config.policy) :
    (judge config marks sample.item).1 = sample.outcome config.validateOrder earlier ∧
      (config.validateOrder = true →
        Remembers (sample :: earlier) (judge config marks sample.item).2) := by
  rw [judge_item acceptable]
  by_cases ordered : config.validateOrder = true
  · have known := remembers ordered
    rw [if_pos ordered, Watermarks.advance, known]
    cases found : Sample.latest? sample.path earlier with
    | none =>
        have latest : sample.IsLatest earlier := by
          rw [Sample.isLatest_iff, found]
          simp
        rw [Sample.outcome, if_pos (.inr latest)]
        exact ⟨rfl, fun _ => known.set latest⟩
    | some last =>
        by_cases later : last < sample.timestamp
        · have latest : sample.IsLatest earlier := by
            rw [Sample.isLatest_iff, found]
            intro other same
            exact Option.some.inj same ▸ later
          rw [Sample.outcome, if_pos (.inr latest)]
          simp only [if_pos later, true_and]
          exact fun _ => known.set latest
        · have late : ¬ (config.validateOrder = false ∨ sample.IsLatest earlier) := by
            rintro (orderless | latest)
            · simp [ordered] at orderless
            · exact later (Sample.isLatest_iff.mp latest last found)
          rw [Sample.outcome, if_neg late, found]
          simp only [if_neg later, Option.getD_some, true_and]
          exact fun _ => known.keep found later
  · have orderless : config.validateOrder = false := by simpa using ordered
    rw [if_neg ordered, Sample.outcome, if_pos (.inl orderless)]
    exact ⟨rfl, fun contrary => absurd contrary ordered⟩

theorem judgeAll_samples {config : Config} {marks : Watermarks} {earlier : List Sample}
    (remembers : config.validateOrder = true → Remembers earlier marks) {samples : List Sample}
    (acceptable : ∀ sample ∈ samples, sample.IsAcceptable config.policy) :
    (judgeAll config marks (samples.map Sample.item)).1 =
      Sample.outcomes config.validateOrder earlier samples := by
  induction samples generalizing marks earlier with
  | nil => rfl
  | cons sample later inductionHypothesis =>
      obtain ⟨first, kept⟩ := judge_sample remembers (acceptable sample List.mem_cons_self)
      have others := inductionHypothesis kept
        (fun other member => acceptable other (List.mem_cons_of_mem _ member))
      rw [List.map_cons, judgeAll, Sample.outcomes]
      exact List.cons_eq_cons.mpr ⟨first, others⟩

end Pipeline

end MetricIntake
