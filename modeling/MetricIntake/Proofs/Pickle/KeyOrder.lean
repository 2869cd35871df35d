import MetricIntake.Pickle.Canonical
import MetricIntake.Pickle.KeyOrder

/-!
Contract: a dictionary whose keys are distinct texts is sorted by them.

Owns:
- the entries whose keys are distinct texts, in any order;
- insertion of one more entry, which keeps all entries and their order;
- agreement of the sorted dictionary with the sort of the canonical form.

Does not own: keys that are no texts, or equal ones.
-/

set_option autoImplicit false

namespace MetricIntake.Pickle.KeyOrder

open Canonical (keyText? entryLe)

theorem keyText?_eq_some_iff {key : Value} {content : String} :
    keyText? key = some content ↔ key = .text content := by
  cases key <;> simp [keyText?]

/-- All keys are texts and no two are equal. -/
structure HasTextKeys (entries : List (Value × Value)) : Prop where
  texts : ∀ entry ∈ entries, ∃ content, keyText? entry.1 = some content
  distinct : (entries.map fun entry => keyText? entry.1).Nodup

theorem hasTextKeys_of_distinctTexts {entries : List (Value × Value)}
    (distinct : Canonical.distinctTexts entries = true) : HasTextKeys entries := by
  obtain ⟨texts, nodup⟩ := Bool.and_eq_true_iff.mp distinct
  refine ⟨fun entry member => ?_, of_decide_eq_true nodup⟩
  exact Option.isSome_iff_exists.mp (List.all_eq_true.mp texts entry member)

theorem HasTextKeys.perm {first second : List (Value × Value)} (keys : HasTextKeys first)
    (permuted : first.Perm second) : HasTextKeys second where
  texts entry member := keys.texts entry (permuted.mem_iff.mpr member)
  distinct := (permuted.map _).nodup_iff.mp keys.distinct

/-- The key of the first entry is a text before the text that is the key of the second. -/
def Before (left right : Value × Value) : Prop :=
  ∃ leftText rightText, keyText? left.1 = some leftText ∧ keyText? right.1 = some rightText ∧
    leftText < rightText

theorem Before.trans {first second third : Value × Value} (left : Before first second)
    (right : Before second third) : Before first third := by
  obtain ⟨firstText, middleText, firstKey, middleKey, less⟩ := left
  obtain ⟨middleText', thirdText, middleKey', thirdKey, less'⟩ := right
  obtain rfl : middleText = middleText' := Option.some.inj (middleKey.symm.trans middleKey')
  exact ⟨firstText, thirdText, firstKey, thirdKey, String.lt_trans less less'⟩

theorem Before.asymm {left right : Value × Value} (forth : Before left right) :
    ¬ Before right left := by
  intro back
  obtain ⟨leftText, leftText', leftKey, leftKey', less⟩ := forth.trans back
  obtain rfl : leftText = leftText' := Option.some.inj (leftKey.symm.trans leftKey')
  exact String.lt_irrefl _ less

theorem compareKeys_text {left right : String} (differ : left ≠ right) :
    compareKeys (.text left) (.text right) = if left < right then .lt else .gt := by
  show compareOfLessAndEq left right = _
  rw [compareOfLessAndEq]
  by_cases less : left < right
  · rw [if_pos less, if_pos less]
  · rw [if_neg less, if_neg less, if_neg differ]

section Insertion

variable {content : String} {value : Value}

/-- What insertion does to a key that is not there: it stands in front of the first greater one. -/
theorem insertEntry_cons {head : String} {held : Value} {rest : List (Value × Value)}
    (differ : content ≠ head) :
    insertEntry (.text content) value ((.text head, held) :: rest) =
      if content < head then (.text content, value) :: (.text head, held) :: rest
      else (.text head, held) :: insertEntry (.text content) value rest := by
  rw [insertEntry, compareKeys_text differ]
  by_cases less : content < head
  · rw [if_pos less, if_pos less]
  · rw [if_neg less, if_neg less]

variable {sorted : List (Value × Value)}

theorem insertEntry_perm
    (absent : ∀ entry ∈ sorted, ∃ other, keyText? entry.1 = some other ∧ content ≠ other) :
    (insertEntry (.text content) value sorted).Perm ((.text content, value) :: sorted) := by
  induction sorted with
  | nil => exact .refl _
  | cons entry rest inductionHypothesis =>
      obtain ⟨key, held⟩ := entry
      obtain ⟨head, headKey, differ⟩ := absent (key, held) List.mem_cons_self
      obtain rfl : key = .text head := keyText?_eq_some_iff.mp headKey
      have inner := inductionHypothesis
        (fun entry member => absent entry (List.mem_cons_of_mem _ member))
      rw [insertEntry_cons differ]
      by_cases less : content < head
      · rw [if_pos less]
      · rw [if_neg less]
        exact (inner.cons _).trans (.swap _ _ _)

theorem insertEntry_before
    (absent : ∀ entry ∈ sorted, ∃ other, keyText? entry.1 = some other ∧ content ≠ other)
    (ordered : sorted.Pairwise Before) :
    (insertEntry (.text content) value sorted).Pairwise Before := by
  induction sorted with
  | nil => exact List.pairwise_singleton _ _
  | cons entry rest inductionHypothesis =>
      obtain ⟨key, held⟩ := entry
      obtain ⟨head, headKey, differ⟩ := absent (key, held) List.mem_cons_self
      obtain rfl : key = .text head := keyText?_eq_some_iff.mp headKey
      have absentLater : ∀ entry ∈ rest, ∃ other,
          keyText? entry.1 = some other ∧ content ≠ other :=
        fun entry member => absent entry (List.mem_cons_of_mem _ member)
      obtain ⟨first, later⟩ := List.pairwise_cons.mp ordered
      rw [insertEntry_cons differ]
      by_cases less : content < head
      · rw [if_pos less]
        have front : Before (.text content, value) (.text head, held) :=
          ⟨content, head, rfl, rfl, less⟩
        refine List.pairwise_cons.mpr ⟨fun entry member => ?_, ordered⟩
        rcases List.mem_cons.mp member with rfl | inRest
        · exact front
        · exact front.trans (first entry inRest)
      · rw [if_neg less]
        refine List.pairwise_cons.mpr ⟨fun entry member => ?_,
          inductionHypothesis absentLater later⟩
        rcases List.mem_cons.mp ((insertEntry_perm absentLater).mem_iff.mp member) with
          rfl | inRest
        · have greater : head < content := by
            have total := String.le_total head content
            rcases total with below | above
            · exact String.not_le.mp fun equal => differ (String.le_antisymm equal below)
            · exact absurd (String.not_le.mp fun equal => differ (String.le_antisymm above equal))
                less
          exact ⟨head, content, rfl, rfl, greater⟩
        · exact first entry inRest

end Insertion

theorem foldl_insertEntry (sorted entries : List (Value × Value))
    (keys : HasTextKeys (sorted ++ entries)) (ordered : sorted.Pairwise Before) :
    (entries.foldl (fun sorted entry => insertEntry entry.1 entry.2 sorted) sorted).Perm
        (sorted ++ entries) ∧
      (entries.foldl (fun sorted entry => insertEntry entry.1 entry.2 sorted) sorted).Pairwise
        Before := by
  induction entries generalizing sorted with
  | nil => exact ⟨by rw [List.append_nil]; exact .refl _, ordered⟩
  | cons entry rest inductionHypothesis =>
      obtain ⟨key, value⟩ := entry
      obtain ⟨content, contentKey⟩ := keys.texts (key, value) (by simp)
      obtain rfl : key = .text content := keyText?_eq_some_iff.mp contentKey
      have absent : ∀ entry ∈ sorted, ∃ other,
          keyText? entry.1 = some other ∧ content ≠ other := by
        intro entry member
        obtain ⟨other, otherKey⟩ := keys.texts entry (List.mem_append_left _ member)
        refine ⟨other, otherKey, ?_⟩
        rintro rfl
        have distinct := keys.distinct
        rw [List.map_append, List.nodup_append] at distinct
        exact distinct.2.2 (some content) (List.mem_map.mpr ⟨entry, member, otherKey⟩)
          (some content) (List.mem_map.mpr ⟨_, List.mem_cons_self, rfl⟩) rfl
      have inserted : (insertEntry (.text content) value sorted ++ rest).Perm
          (sorted ++ (.text content, value) :: rest) :=
        ((insertEntry_perm absent).append_right rest).trans List.perm_middle.symm
      obtain ⟨kept, stays⟩ := inductionHypothesis _ (keys.perm inserted.symm)
        (insertEntry_before absent ordered)
      exact ⟨kept.trans inserted, stays⟩

/-- On entries with texts for keys the order of the canonical form is that of the texts. -/
theorem mergeSort_before {entries : List (Value × Value)} (keys : HasTextKeys entries) :
    (entries.mergeSort entryLe).Pairwise Before := by
  have agrees : entries.mergeSort entryLe = entries.mergeSort fun left right =>
      decide ((keyText? left.1).getD "" ≤ (keyText? right.1).getD "") := by
    have mapped := List.map_mergeSort (f := id) (l := entries) (r := entryLe)
      (s := fun left right =>
        decide ((keyText? left.1).getD "" ≤ (keyText? right.1).getD "")) (by
        intro left leftMember right rightMember
        obtain ⟨leftText, leftKey⟩ := keys.texts left leftMember
        obtain ⟨rightText, rightKey⟩ := keys.texts right rightMember
        simp only [entryLe, id, leftKey, rightKey, Option.getD_some]
        rfl)
    simpa only [List.map_id] using mapped
  have permuted := List.mergeSort_perm entries entryLe
  have ordered : (entries.mergeSort fun left right =>
        decide ((keyText? left.1).getD "" ≤ (keyText? right.1).getD "")).Pairwise fun left right =>
      decide ((keyText? left.1).getD "" ≤ (keyText? right.1).getD "") = true :=
    List.pairwise_mergeSort (by
      intro first second third
      simpa using String.le_trans)
    (by
      intro first second
      simpa using String.le_total _ _) entries
  rw [← agrees] at ordered
  have sortedKeys := keys.perm permuted.symm
  have distinct := List.pairwise_map.mp sortedKeys.distinct
  refine List.Pairwise.imp_of_mem ?_ (List.pairwise_and_iff.mpr ⟨ordered, distinct⟩)
  rintro left right leftMember rightMember ⟨below, differ⟩
  obtain ⟨leftText, leftKey⟩ := sortedKeys.texts left leftMember
  obtain ⟨rightText, rightKey⟩ := sortedKeys.texts right rightMember
  refine ⟨leftText, rightText, leftKey, rightKey, ?_⟩
  simp only [leftKey, rightKey, Option.getD_some, decide_eq_true_eq, ne_eq,
    Option.some.injEq] at below differ
  exact String.not_le.mp fun above => differ (String.le_antisymm below above)

/-- **The sorted dictionary of distinct texts** has the entries in the order of their keys. -/
theorem sortedDict_eq_mergeSort {entries : List (Value × Value)} (keys : HasTextKeys entries) :
    sortedDict entries = entries.mergeSort entryLe := by
  obtain ⟨permuted, ordered⟩ :=
    foldl_insertEntry [] entries (by simpa using keys) .nil
  refine List.Perm.eq_of_pairwise ?_ ordered (mergeSort_before keys)
    (permuted.trans (List.mergeSort_perm entries entryLe).symm)
  intro left right _ _ forth back
  exact absurd back forth.asymm

end MetricIntake.Pickle.KeyOrder
