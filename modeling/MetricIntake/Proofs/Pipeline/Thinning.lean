import MetricIntake.Proofs.Pipeline.Run

/-!
Contract: an item that is not passed on costs only itself.

Owns:
- runs that keep each item beside its outcome;
- pipelines from which all later items take the same course;
- what is left of a run without some of the items that it did not pass on.

Does not own: which items are passed on.

## Which items may be left out

A part of a run is any choice of its items with their outcomes, in their order. It loses nothing of
what was passed on when all items that were passed on are among the chosen ones; of the others, which
left the marks and the log as they were, any may be missing.
-/

set_option autoImplicit false

namespace MetricIntake

def ItemOutcome.isDispatched (outcome : ItemOutcome) : Bool := outcome.metric.isSome

namespace Pipeline

/-! ### Runs with their outcomes -/

/-- Takes up some items, one after the other, and keeps each beside its outcome. -/
def follow (config : Config) : Pipeline → List Value → List (Value × ItemOutcome) × Pipeline
  | pipeline, [] => ([], pipeline)
  | pipeline, item :: rest =>
      let (outcome, next) := processItem config pipeline item
      let (followed, last) := follow config next rest
      ((item, outcome) :: followed, last)

theorem follow_cons (config : Config) (pipeline : Pipeline) (item : Value) (rest : List Value) :
    follow config pipeline (item :: rest) =
      ((item, (processItem config pipeline item).1) ::
          (follow config (processItem config pipeline item).2 rest).1,
        (follow config (processItem config pipeline item).2 rest).2) := rfl

theorem follow_items (config : Config) (pipeline : Pipeline) (items : List Value) :
    (follow config pipeline items).1.map Prod.fst = items ∧
      (follow config pipeline items).2 = processItems config pipeline items := by
  induction items generalizing pipeline with
  | nil => exact ⟨rfl, rfl⟩
  | cons item rest inductionHypothesis =>
      obtain ⟨same, last⟩ := inductionHypothesis (processItem config pipeline item).2
      exact ⟨congrArg (item :: ·) same, last⟩

/-! ### Pipelines that agree -/

/-- Pipelines have the same course when they have the same marks and the same log. They may have
counted different items and may have put different lines into quarantine. -/
structure SameCourse (one other : Pipeline) : Prop where
  watermarks : one.watermarks = other.watermarks
  dispatched : one.dispatched = other.dispatched

theorem SameCourse.refl (pipeline : Pipeline) : SameCourse pipeline pipeline := ⟨rfl, rfl⟩

theorem SameCourse.symm {one other : Pipeline} (same : SameCourse one other) :
    SameCourse other one :=
  ⟨same.watermarks.symm, same.dispatched.symm⟩

theorem SameCourse.trans {one middle other : Pipeline} (first : SameCourse one middle)
    (second : SameCourse middle other) : SameCourse one other :=
  ⟨first.watermarks.trans second.watermarks, first.dispatched.trans second.dispatched⟩

section Course

variable {one other : Pipeline} (config : Config) (item : Value)

/-- **An item that is not passed on leaves no trace** in the marks and in the log. -/
theorem sameCourse_of_not_dispatched
    (lost : (processItem config one item).1.isDispatched = false) :
    SameCourse (processItem config one item).2 one := by
  rw [processItem_eq] at lost ⊢
  have judged := judge_judged config one.watermarks item
  generalize judge config one.watermarks item = result at judged lost
  cases judged with
  | invalid unobserved => exact ⟨rfl, rfl⟩
  | rejected observed unread => exact ⟨rfl, rfl⟩
  | outOfOrder observed read ordered late => exact ⟨rfl, rfl⟩
  | dispatched observed read advances => cases lost

/-- Pipelines of the same course do the same with an item, and keep the same course. -/
theorem SameCourse.processItem (same : SameCourse one other) :
    (processItem config one item).1 = (processItem config other item).1 ∧
      SameCourse (processItem config one item).2 (processItem config other item).2 := by
  rw [processItem_eq, processItem_eq, same.watermarks]
  refine ⟨rfl, rfl, ?_⟩
  cases (judge config other.watermarks item).1 with
  | dispatched metric => exact congrArg (·.push metric) same.dispatched
  | _ => exact same.dispatched

end Course

/-! ### Parts of a run -/

/-- Whether an item with its outcome is one that was passed on. -/
def isPassed (entry : Value × ItemOutcome) : Bool := entry.2.isDispatched

/-- A part of a run lacks only items that were not passed on. -/
inductive Thins : List (Value × ItemOutcome) → List (Value × ItemOutcome) → Prop where
  | nil : Thins [] []
  | keep {part whole : List (Value × ItemOutcome)} (entry : Value × ItemOutcome)
      (others : Thins part whole) : Thins (entry :: part) (entry :: whole)
  | leave {part whole : List (Value × ItemOutcome)} {entry : Value × ItemOutcome}
      (lost : isPassed entry = false) (others : Thins part whole) : Thins part (entry :: whole)

theorem Thins.of_cons {part whole : List (Value × ItemOutcome)} {entry : Value × ItemOutcome}
    (thins : Thins part (entry :: whole)) :
    (∃ others, part = entry :: others ∧ Thins others whole) ∨
      (isPassed entry = false ∧ Thins part whole) := by
  cases thins with
  | keep entry others => exact .inl ⟨_, rfl, others⟩
  | leave lost others => exact .inr ⟨lost, others⟩

theorem thins_of_filter_eq {part whole : List (Value × ItemOutcome)} (chosen : part.Sublist whole)
    (same : whole.filter isPassed = part.filter isPassed) : Thins part whole := by
  induction chosen with
  | slnil => exact .nil
  | @cons part whole entry chosen inductionHypothesis =>
      by_cases passed : isPassed entry = true
      · -- The choice would have one item fewer than were passed on.
        rw [List.filter_cons, if_pos passed] at same
        have many := congrArg List.length same
        have few := (chosen.filter isPassed).length_le
        rw [List.length_cons] at many
        omega
      · rw [List.filter_cons, if_neg passed] at same
        exact .leave (by simpa using passed) (inductionHypothesis same)
  | @cons_cons part whole entry chosen inductionHypothesis =>
      refine .keep entry (inductionHypothesis ?_)
      rw [List.filter_cons, List.filter_cons] at same
      by_cases passed : isPassed entry = true
      · rw [if_pos passed, if_pos passed] at same
        exact (List.cons.inj same).2
      · rwa [if_neg passed, if_neg passed] at same

/-- A choice among the items of a run is such a part when it has all items that were passed on. -/
theorem thins_of_sublist {part whole : List (Value × ItemOutcome)} (chosen : part.Sublist whole)
    (complete : (whole.filter isPassed).Sublist part) : Thins part whole := by
  apply thins_of_filter_eq chosen
  have kept := complete.filter isPassed
  rw [List.filter_filter] at kept
  simp only [Bool.and_self] at kept
  exact kept.eq_of_length_le (chosen.filter isPassed).length_le

/-- A part of a run, taken up from a pipeline of the same course, is that part again. -/
theorem follow_thins (config : Config) {one other : Pipeline} (same : SameCourse one other)
    {items : List Value} {part : List (Value × ItemOutcome)}
    (thins : Thins part (follow config other items).1) :
    (follow config one (part.map Prod.fst)).1 = part ∧
      SameCourse (follow config one (part.map Prod.fst)).2 (follow config other items).2 := by
  induction items generalizing one other part with
  | nil =>
      cases thins
      exact ⟨rfl, same⟩
  | cons item rest inductionHypothesis =>
      rw [follow_cons] at thins ⊢
      rcases thins.of_cons with ⟨others, rfl, kept⟩ | ⟨lost, kept⟩
      · obtain ⟨outcome, next⟩ := same.processItem config item
        obtain ⟨followed, last⟩ := inductionHypothesis next kept
        rw [List.map_cons, follow_cons, outcome, followed]
        exact ⟨rfl, last⟩
      · have untouched := sameCourse_of_not_dispatched config item lost
        exact inductionHypothesis (same.trans untouched.symm) kept

/-- **A bad item costs only itself.** Of a run, any choice of items is taken up again from the same
pipeline, in the same order, as long as all items that were passed on are among them. Each of them has
the outcome that it had, and the log and the marks at the end are the same. -/
theorem processItems_thinned (config : Config) (pipeline : Pipeline) (items : List Value)
    {kept : List (Value × ItemOutcome)} (chosen : kept.Sublist (follow config pipeline items).1)
    (complete : ((follow config pipeline items).1.filter isPassed).Sublist kept) :
    (follow config pipeline (kept.map Prod.fst)).1 = kept ∧
      (processItems config pipeline (kept.map Prod.fst)).dispatched =
        (processItems config pipeline items).dispatched ∧
      (processItems config pipeline (kept.map Prod.fst)).watermarks =
        (processItems config pipeline items).watermarks := by
  obtain ⟨followed, last⟩ :=
    follow_thins config (SameCourse.refl pipeline) (thins_of_sublist chosen complete)
  rw [(follow_items config pipeline _).2, (follow_items config pipeline items).2] at last
  exact ⟨followed, last.dispatched, last.watermarks⟩

/-- Five items, of which the second is no observation, the third comes too late and the fourth has no
timestamp. Taken up again without the second and the fourth, the late item is late again. -/
theorem processItems_thinned_late :
    let config := { Config.default with validateOrder := true }
    let taken (time : String) := Value.metricItem (.text "a") (.text time) (.text "1")
    let items := [taken "5", .null, taken "3", taken "x", taken "7"]
    let whole := (follow config .initial items).1
    let kept := whole.filter fun entry => isPassed entry || entry.2.isOutOfOrder
    kept.length = 3 ∧ (follow config .initial (kept.map Prod.fst)).1 = kept ∧
      (processItems config .initial (kept.map Prod.fst)).dispatched.size = 2 ∧
      (processItems config .initial (kept.map Prod.fst)).watermarks.last? "a" = some 7 := by
  intro config taken items whole kept
  have complete : (whole.filter isPassed).Sublist kept := by
    apply List.monotone_filter_right
    intro entry passed
    simp [passed]
  obtain ⟨followed, log, marks⟩ :=
    processItems_thinned config .initial items (List.filter_sublist) complete
  refine ⟨by decide +kernel, followed, ?_, ?_⟩
  · rw [log]
    decide +kernel
  · rw [marks]
    decide +kernel

end Pipeline

end MetricIntake
