import MetricIntake.Text.Fields

/-!
Contract: what cutting at separators makes of a joined sequence.

Owns:
- the pieces and words of two sequences with a separator between them;
- the pieces of a sequence behind elements that are no separators;
- the words of a sequence that holds no separator.

Does not own: which elements separate.
-/

set_option autoImplicit false

namespace MetricIntake.Fields

variable {α : Type} {isSeparator : α → Bool}

theorem pieces_ne_nil (elements : List α) : pieces isSeparator elements ≠ [] := by
  cases elements with
  | nil => simp [pieces]
  | cons element rest =>
      simp only [pieces]
      split
      · simp
      · split <;> simp

theorem pieces_cons_of_not_separator {element : α} (inside : isSeparator element = false)
    (rest : List α) :
    ∃ first others, pieces isSeparator rest = first :: others ∧
      pieces isSeparator (element :: rest) = (element :: first) :: others := by
  obtain ⟨first, others, shape⟩ :=
    List.exists_cons_of_ne_nil (show pieces isSeparator rest ≠ [] from pieces_ne_nil rest)
  exact ⟨first, others, shape, by simp [pieces, inside, shape]⟩

theorem pieces_append_separator {separator : α} (separates : isSeparator separator = true)
    (front rest : List α) :
    pieces isSeparator (front ++ separator :: rest) =
      pieces isSeparator front ++ pieces isSeparator rest := by
  induction front with
  | nil => simp [pieces, separates]
  | cons element front inductionHypothesis =>
      by_cases cut : isSeparator element = true
      · simp only [List.cons_append, pieces, if_pos cut, inductionHypothesis]
      · have inside : isSeparator element = false := by simpa using cut
        obtain ⟨first, others, shape, grown⟩ := pieces_cons_of_not_separator inside front
        rw [grown, List.cons_append, pieces, if_neg cut, inductionHypothesis, shape]
        rfl

theorem words_append_separator {separator : α} (separates : isSeparator separator = true)
    (front rest : List α) :
    words isSeparator (front ++ separator :: rest) =
      words isSeparator front ++ words isSeparator rest := by
  rw [words, pieces_append_separator separates, List.filter_append]
  rfl

/-- Elements that are no separators lengthen the first piece of what follows them. -/
theorem pieces_append_of_unseparated {front : List α}
    (inside : ∀ element ∈ front, isSeparator element = false) (rest : List α) :
    ∃ first others, pieces isSeparator rest = first :: others ∧
      pieces isSeparator (front ++ rest) = (front ++ first) :: others := by
  induction front with
  | nil =>
      obtain ⟨first, others, shape⟩ :=
        List.exists_cons_of_ne_nil (show pieces isSeparator rest ≠ [] from pieces_ne_nil rest)
      exact ⟨first, others, shape, shape⟩
  | cons element front inductionHypothesis =>
      obtain ⟨first, others, shape, grown⟩ :=
        inductionHypothesis fun other member => inside other (List.mem_cons_of_mem _ member)
      obtain ⟨whole, after, cut, longer⟩ :=
        pieces_cons_of_not_separator (inside element List.mem_cons_self) (front ++ rest)
      obtain ⟨rfl, rfl⟩ := List.cons.inj (cut.symm.trans grown)
      exact ⟨first, after, shape, longer⟩

/-- A sequence without separators is its only piece. -/
theorem pieces_of_unseparated {elements : List α}
    (inside : ∀ element ∈ elements, isSeparator element = false) :
    pieces isSeparator elements = [elements] := by
  induction elements with
  | nil => rfl
  | cons element rest inductionHypothesis =>
      have restInside := inductionHypothesis fun other member => inside other (by simp [member])
      simp [pieces, inside element (by simp), restInside]

/-- A sequence without separators is its only word, unless it is empty. -/
theorem words_of_unseparated {elements : List α}
    (inside : ∀ element ∈ elements, isSeparator element = false) :
    words isSeparator elements = if elements = [] then [] else [elements] := by
  rw [words, pieces_of_unseparated inside]
  cases elements <;> simp

end MetricIntake.Fields
