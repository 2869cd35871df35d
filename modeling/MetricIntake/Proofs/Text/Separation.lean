import MetricIntake.Proofs.Text.Fields

/-!
Contract: what pieces, words and single cuts are, said without the functions that find them.

Owns:
- the pieces between separators, which join to the whole and hold no separator;
- the maximal runs without separators, as a relation, and that the words are these runs;
- the parts before and after the first separator.

Does not own: which elements separate.
-/

set_option autoImplicit false

namespace MetricIntake.Fields

variable {α : Type}

/-! ### Pieces -/

theorem pieces_eq_splitOnP (isSeparator : α → Bool) (elements : List α) :
    pieces isSeparator elements = elements.splitOnP isSeparator := by
  induction elements with
  | nil => rfl
  | cons element rest inductionHypothesis =>
      rw [List.splitOnP_cons_eq_if_modifyHead, pieces, inductionHypothesis]
      by_cases cut : isSeparator element = true
      · rw [if_pos cut, if_pos cut]
      · rw [if_neg cut, if_neg cut]
        cases shape : rest.splitOnP isSeparator with
        | nil => exact absurd shape (List.splitOnP_ne_nil _ _)
        | cons first others => rfl

theorem not_separator_of_mem_pieces {isSeparator : α → Bool} {elements piece : List α}
    (member : piece ∈ pieces isSeparator elements) :
    ∀ element ∈ piece, isSeparator element = false := by
  induction elements generalizing piece with
  | nil =>
      obtain rfl : piece = [] := by simpa [pieces] using member
      simp
  | cons head rest inductionHypothesis =>
      by_cases cut : isSeparator head = true
      · rw [pieces, if_pos cut, List.mem_cons] at member
        rcases member with rfl | later
        · simp
        · exact inductionHypothesis later
      · have inside : isSeparator head = false := by simpa using cut
        obtain ⟨first, others, shape, grown⟩ := pieces_cons_of_not_separator inside rest
        rw [grown, List.mem_cons] at member
        rw [shape] at inductionHypothesis
        rcases member with rfl | later
        · intro element elementMember
          rcases List.mem_cons.mp elementMember with rfl | inFirst
          · exact inside
          · exact inductionHypothesis List.mem_cons_self element inFirst
        · exact inductionHypothesis (List.mem_cons_of_mem _ later)

/-- **The pieces of a sequence** are the sequences without separators that join to it with a
separator between any two. -/
theorem pieces_eq_iff [DecidableEq α] {separator : α} {elements : List α} {cut : List (List α)} :
    pieces (· == separator) elements = cut ↔
      cut ≠ [] ∧ (∀ piece ∈ cut, separator ∉ piece) ∧ [separator].intercalate cut = elements := by
  constructor
  · rintro rfl
    refine ⟨pieces_ne_nil elements, ?_, ?_⟩
    · intro piece member held
      simpa using not_separator_of_mem_pieces member separator held
    · rw [pieces_eq_splitOnP, ← List.splitOn_eq_splitOnP]
      exact List.intercalate_splitOn separator
  · rintro ⟨nonempty, inside, rfl⟩
    rw [pieces_eq_splitOnP, ← List.splitOn_eq_splitOnP]
    exact List.splitOn_intercalate separator inside nonempty

/-! ### Runs -/

/-- The maximal runs of elements that are no separators. A run ends where the sequence ends or a
separator comes next. -/
inductive Runs (isSeparator : α → Bool) : List α → List (List α) → Prop where
  | none {gap : List α} (separators : ∀ element ∈ gap, isSeparator element = true) :
      Runs isSeparator gap []
  | next (gap : List α) {run rest : List α} {runs : List (List α)}
      (separators : ∀ element ∈ gap, isSeparator element = true) (nonempty : run ≠ [])
      (inside : ∀ element ∈ run, isSeparator element = false)
      (ended : ∀ element ∈ rest.head?, isSeparator element = true)
      (others : Runs isSeparator rest runs) : Runs isSeparator (gap ++ run ++ rest) (run :: runs)

variable {isSeparator : α → Bool}

theorem words_cons_separator {separator : α} (separates : isSeparator separator = true)
    (rest : List α) : words isSeparator (separator :: rest) = words isSeparator rest :=
  words_append_separator separates [] rest

theorem words_append_of_separators {gap : List α}
    (separators : ∀ element ∈ gap, isSeparator element = true) (rest : List α) :
    words isSeparator (gap ++ rest) = words isSeparator rest := by
  induction gap with
  | nil => rfl
  | cons separator gap inductionHypothesis =>
      rw [List.cons_append, words_cons_separator (separators separator List.mem_cons_self)]
      exact inductionHypothesis fun element member =>
        separators element (List.mem_cons_of_mem _ member)

/-- A run in front of a separator, or of nothing, is the first word. -/
theorem words_append_of_ended {run rest : List α} (nonempty : run ≠ [])
    (inside : ∀ element ∈ run, isSeparator element = false)
    (ended : ∀ element ∈ rest.head?, isSeparator element = true) :
    words isSeparator (run ++ rest) = run :: words isSeparator rest := by
  cases rest with
  | nil =>
      have empty : words isSeparator [] = [] := rfl
      rw [List.append_nil, words_of_unseparated inside, if_neg nonempty, empty]
  | cons separator rest =>
      have separates := ended separator rfl
      rw [words_append_separator separates, words_of_unseparated inside, if_neg nonempty,
        words_cons_separator separates, List.singleton_append]

theorem Runs.words_eq {elements : List α} {runs : List (List α)}
    (maximal : Runs isSeparator elements runs) : words isSeparator elements = runs := by
  induction maximal with
  | @none gap separators =>
      have dropped := words_append_of_separators separators []
      rwa [List.append_nil] at dropped
  | next gap separators nonempty inside ended others inductionHypothesis =>
      rw [List.append_assoc, words_append_of_separators separators,
        words_append_of_ended nonempty inside ended, inductionHypothesis]

theorem Runs.cons_separator {separator : α} {elements : List α} {runs : List (List α)}
    (separates : isSeparator separator = true) (maximal : Runs isSeparator elements runs) :
    Runs isSeparator (separator :: elements) runs := by
  cases maximal with
  | none separators => exact .none (List.forall_mem_cons.mpr ⟨separates, separators⟩)
  | next gap separators nonempty inside ended others =>
      exact .next (separator :: gap) (List.forall_mem_cons.mpr ⟨separates, separators⟩) nonempty
        inside ended others

/-- An element that is no separator starts a run of its own or lengthens the one that follows. -/
theorem Runs.cons_inside {element : α} {elements : List α} {runs : List (List α)}
    (inside : isSeparator element = false) (maximal : Runs isSeparator elements runs) :
    ∃ longer, Runs isSeparator (element :: elements) longer := by
  have alone : ∀ other ∈ [element], isSeparator other = false := by simpa using inside
  by_cases ended : ∀ next ∈ elements.head?, isSeparator next = true
  · exact ⟨[element] :: runs, .next [] (by simp) (by simp) alone ended maximal⟩
  · cases maximal with
    | none separators =>
        refine absurd (fun next first => ?_) ended
        exact separators next (List.mem_of_mem_head? first)
    | @next gap run rest others separators nonempty runInside restEnded maximal =>
        cases gap with
        | cons separator gap =>
            refine absurd (fun next first => ?_) ended
            obtain rfl : separator = next := by simpa using first
            exact separators _ List.mem_cons_self
        | nil =>
            exact ⟨(element :: run) :: others, .next [] (by simp) (by simp)
              (List.forall_mem_cons.mpr ⟨inside, runInside⟩) restEnded maximal⟩

theorem exists_runs (isSeparator : α → Bool) (elements : List α) :
    ∃ runs, Runs isSeparator elements runs := by
  induction elements with
  | nil => exact ⟨[], .none (by simp)⟩
  | cons element rest inductionHypothesis =>
      obtain ⟨runs, maximal⟩ := inductionHypothesis
      by_cases cut : isSeparator element = true
      · exact ⟨runs, maximal.cons_separator cut⟩
      · exact maximal.cons_inside (by simpa using cut)

/-- **The words of a sequence are its maximal runs** of elements that are no separators. -/
theorem words_eq_iff {elements : List α} {runs : List (List α)} :
    words isSeparator elements = runs ↔ Runs isSeparator elements runs := by
  constructor
  · rintro rfl
    obtain ⟨runs, maximal⟩ := exists_runs isSeparator elements
    rw [maximal.words_eq]
    exact maximal
  · exact Runs.words_eq

/-! ### One cut -/

theorem cutOnce?_eq_none_iff {elements : List α} :
    cutOnce? isSeparator elements = none ↔ ∀ element ∈ elements, isSeparator element = false := by
  induction elements with
  | nil => simp [cutOnce?]
  | cons element rest inductionHypothesis =>
      by_cases cut : isSeparator element = true
      · simp [cutOnce?, cut]
      · have inside : isSeparator element = false := by simpa using cut
        rw [cutOnce?, if_neg cut, Option.map_eq_none_iff, inductionHypothesis,
          List.forall_mem_cons]
        exact (and_iff_right inside).symm

theorem cutOnce?_eq_some_iff [DecidableEq α] {separator : α} {elements front back : List α} :
    cutOnce? (· == separator) elements = some (front, back) ↔
      separator ∉ front ∧ elements = front ++ separator :: back := by
  induction elements generalizing front with
  | nil => simp [cutOnce?]
  | cons element rest inductionHypothesis =>
      by_cases cut : element = separator
      · subst cut
        rw [cutOnce?, if_pos (by simp)]
        cases front with
        | nil => simp [eq_comm]
        | cons head front =>
            simp only [Option.some.injEq, Prod.mk.injEq, List.mem_cons, not_or, reduceCtorEq,
              List.cons_append, List.cons.injEq, false_and, false_iff]
            rintro ⟨⟨differs, -⟩, same, -⟩
            exact differs same
      · rw [cutOnce?, if_neg (by simpa using cut)]
        simp only [Option.map_eq_some_iff, Prod.exists, Prod.mk.injEq]
        constructor
        · rintro ⟨before, after, found, rfl, rfl⟩
          obtain ⟨absent, rfl⟩ := inductionHypothesis.mp found
          exact ⟨by simp [absent, Ne.symm cut], rfl⟩
        · rintro ⟨absent, joined⟩
          cases front with
          | nil => exact absurd (List.cons.inj joined).1 cut
          | cons head front =>
              obtain ⟨rfl, rfl⟩ := List.cons.inj joined
              have inFront : separator ∉ front := fun held => absent (List.mem_cons_of_mem _ held)
              exact ⟨front, back, inductionHypothesis.mpr ⟨inFront, rfl⟩, rfl, rfl⟩

end MetricIntake.Fields
