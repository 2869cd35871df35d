import Mathlib.Tactic.SplitIfs
import MetricIntake.Packet.Policy
import MetricIntake.Proofs.Outcome
import MetricIntake.Proofs.Text.Separation

/-!
Contract: what a policy demands of a key, and which fault a key is refused for.

Owns:
- the demands of each level on the bytes of a key, on its nodes and on its tags, as conditions;
- the keys that are accepted, which are those that meet the conditions;
- the fault of a refused key, which is that of the first condition it fails;
- what a stricter policy accepts, a looser one accepts.

Does not own: the fields of a line, the first of which is the key.
-/

set_option autoImplicit false

namespace MetricIntake

/-- The first element that fails a condition. -/
def IsFirstFailing {α : Type} (condition : α → Prop) (elements : List α) (element : α) : Prop :=
  ∃ front rest, elements = front ++ element :: rest ∧ (∀ earlier ∈ front, condition earlier) ∧
    ¬ condition element

theorem IsFirstFailing.not_forall {α : Type} {condition : α → Prop} {elements : List α}
    {element : α} (first : IsFirstFailing condition elements element) :
    ¬ ∀ other ∈ elements, condition other := by
  intro all
  obtain ⟨front, rest, rfl, -, fails⟩ := first
  exact fails (all element (by simp))

/-- The first element that fails a condition is the head, or the first one behind a head that meets
it. -/
theorem isFirstFailing_cons_iff {α : Type} {condition : α → Prop} {head element : α}
    {rest : List α} :
    IsFirstFailing condition (head :: rest) element ↔
      (¬ condition head ∧ element = head) ∨
        (condition head ∧ IsFirstFailing condition rest element) := by
  constructor
  · rintro ⟨front, back, shape, earlier, fails⟩
    cases front with
    | nil =>
        obtain ⟨rfl, rfl⟩ := List.cons.inj shape
        exact .inl ⟨fails, rfl⟩
    | cons first front =>
        obtain ⟨rfl, rfl⟩ := List.cons.inj shape
        obtain ⟨holds, others⟩ := List.forall_mem_cons.mp earlier
        exact .inr ⟨holds, front, back, rfl, others, fails⟩
  · rintro (⟨fails, rfl⟩ | ⟨holds, front, back, rfl, earlier, fails⟩)
    · exact ⟨[], rest, rfl, by simp, fails⟩
    · exact ⟨head :: front, back, rfl, List.forall_mem_cons.mpr ⟨holds, earlier⟩, fails⟩

/-- An element is found when it is the first that fails the negation of the test. -/
theorem find?_eq_some_iff_first {α : Type} {condition : α → Prop} {test : α → Bool}
    (tests : ∀ element, test element = true ↔ ¬ condition element) {elements : List α}
    {element : α} :
    elements.find? test = some element ↔ IsFirstFailing condition elements element := by
  have passes (other : α) : (!test other) = true ↔ condition other := by
    rw [Bool.not_eq_true', ← Bool.not_eq_true, tests, Classical.not_not]
  rw [List.find?_eq_some_iff_append]
  constructor
  · rintro ⟨found, front, rest, rfl, earlier⟩
    refine ⟨front, rest, rfl, fun other member => ?_, (tests element).mp found⟩
    exact (passes other).mp (earlier other member)
  · rintro ⟨front, rest, rfl, earlier, fails⟩
    refine ⟨(tests element).mpr fails, front, rest, rfl, fun other member => ?_⟩
    exact (passes other).mpr (earlier other member)

theorem find?_eq_none_iff_forall {α : Type} {condition : α → Prop} {test : α → Bool}
    (tests : ∀ element, test element = true ↔ ¬ condition element) {elements : List α} :
    elements.find? test = none ↔ ∀ element ∈ elements, condition element := by
  simp only [List.find?_eq_none, tests, Classical.not_not]

namespace KeyPolicy

/-! ### Conditions -/

/-- The bytes that a level lets a key hold. -/
def Allows : Strictness → UInt8 → Prop
  | .none, _ => True
  | .medium, byte => 0x20 ≤ byte.toNat ∧ byte.toNat ≠ 0x7F
  | .strict, byte => 0x21 ≤ byte.toNat ∧ byte.toNat ≤ 0x7E

/-- The nodes of a key are what stands between its full stops. -/
structure AreNodes (key : String) (cut : List (List Char)) : Prop where
  nonempty : cut ≠ []
  inside : ∀ node ∈ cut, '.' ∉ node
  joined : ['.'].intercalate cut = key.toList

/-- A tag has some text before its first equals sign and some after it. -/
def IsTag (node : List Char) : Prop :=
  ∃ name value, name ≠ [] ∧ value ≠ [] ∧ '=' ∉ name ∧ node = name ++ '=' :: value

/-- At the strict level every node must be a tag, below it those with an equals sign. -/
def AllowsNode (level : Strictness) (node : List Char) : Prop :=
  level = .strict ∨ '=' ∈ node → IsTag node

/-- A node has one of the metric tags when it begins with its name and an equals sign. -/
def hasTag (tag : MetricTag) (node : List Char) : Bool :=
  (tag.name.toList ++ ['=']).isPrefixOf node

/-- A metric tag stands once at most, and at the strict level exactly once. -/
def AllowsCount (level : Strictness) (count : Nat) : Prop :=
  count ≤ 1 ∧ (level = .strict → count = 1)

/-- What a level demands of every key. -/
structure MeetsLegacy (level : Strictness) (key : String) : Prop where
  bytes : ∀ byte ∈ Utf8.encode key, Allows level byte
  nodes : level = .strict → ∀ cut, AreNodes key cut → [] ∉ cut

/-- What a level demands of a key with tags. -/
structure MeetsTagged (level : Strictness) (key : String) : Prop where
  nodes : level ≠ .none → ∀ cut, AreNodes key cut → ∀ node ∈ cut, AllowsNode level node
  counts : level ≠ .none → ∀ cut, AreNodes key cut →
    ∀ tag, AllowsCount level (cut.countP (hasTag tag))

/-- What a policy demands of a key. -/
structure Meets (policy : KeyPolicy) (key : String) : Prop where
  legacy : MeetsLegacy policy.legacy key
  tagged : '=' ∈ key.toList → MeetsTagged policy.tagged key

/-! ### Faults -/

/-- The first demand on every key that a key fails: a byte, and only then an empty node. -/
inductive LegacyFault (level : Strictness) (key : String) : KeyFault → Prop where
  | invalidByte {byte : UInt8} (first : IsFirstFailing (Allows level) (Utf8.encode key) byte) :
      LegacyFault level key (.invalidByte byte)
  | emptyNode (strict : level = .strict) (bytes : ∀ byte ∈ Utf8.encode key, Allows level byte)
      {cut : List (List Char)} (nodes : AreNodes key cut) (empty : [] ∈ cut) :
      LegacyFault level key .emptyNode

/-- The first demand on keys with tags that a key fails: a node, and only then the number of units
and after it that of kinds. -/
inductive TaggedFault (level : Strictness) (key : String) : KeyFault → Prop where
  | invalidTag {cut : List (List Char)} {node : List Char} (demanded : level ≠ .none)
      (nodes : AreNodes key cut) (first : IsFirstFailing (AllowsNode level) cut node) :
      TaggedFault level key (.invalidTag (String.ofList node))
  | duplicateTag {cut : List (List Char)} {tag : MetricTag} (demanded : level ≠ .none)
      (nodes : AreNodes key cut) (tags : ∀ node ∈ cut, AllowsNode level node)
      (units : tag = .kind → AllowsCount level (cut.countP (hasTag .unit)))
      (many : 1 < cut.countP (hasTag tag)) : TaggedFault level key (.duplicateTag tag)
  | missingTag {cut : List (List Char)} {tag : MetricTag} (strict : level = .strict)
      (nodes : AreNodes key cut) (tags : ∀ node ∈ cut, AllowsNode level node)
      (units : tag = .kind → AllowsCount level (cut.countP (hasTag .unit)))
      (absent : cut.countP (hasTag tag) = 0) : TaggedFault level key (.missingTag tag)

/-- The first demand of a policy that a key fails. -/
inductive Faulty (policy : KeyPolicy) (key : String) : KeyFault → Prop where
  | legacy {fault : KeyFault} (fails : LegacyFault policy.legacy key fault) :
      Faulty policy key fault
  | tagged {fault : KeyFault} (legacy : MeetsLegacy policy.legacy key) (tags : '=' ∈ key.toList)
      (fails : TaggedFault policy.tagged key fault) : Faulty policy key fault

/-! ### Keys in general -/

theorem areNodes_iff {key : String} {cut : List (List Char)} :
    AreNodes key cut ↔ nodes key = cut := by
  rw [nodes, Fields.pieces_eq_iff]
  exact ⟨fun ⟨nonempty, inside, joined⟩ => ⟨nonempty, inside, joined⟩,
    fun ⟨nonempty, inside, joined⟩ => ⟨nonempty, inside, joined⟩⟩

theorem areNodes_nodes (key : String) : AreNodes key (nodes key) :=
  areNodes_iff.mpr rfl

theorem isControl_iff (byte : UInt8) : isControl byte = true ↔ ¬ Allows .medium byte := by
  simp only [isControl, Allows, Bool.or_eq_true, decide_eq_true_eq, beq_iff_eq]
  omega

theorem not_isGraphic_iff (byte : UInt8) :
    (!isGraphic byte) = true ↔ ¬ Allows .strict byte := by
  simp only [isGraphic, Allows, Bool.not_eq_true', Bool.and_eq_false_iff, decide_eq_false_iff_not]
  omega

theorem any_isEmpty_nodes (key : String) :
    (nodes key).any (·.isEmpty) = true ↔ ∃ cut, AreNodes key cut ∧ [] ∈ cut := by
  rw [List.any_eq_true]
  constructor
  · rintro ⟨node, member, empty⟩
    rw [List.isEmpty_iff] at empty
    exact ⟨nodes key, areNodes_nodes key, empty ▸ member⟩
  · rintro ⟨cut, areNodes, member⟩
    exact ⟨[], areNodes_iff.mp areNodes ▸ member, rfl⟩

theorem checkLegacy_eq_ok_iff {level : Strictness} {key : String} :
    checkLegacy level key = .ok () ↔ MeetsLegacy level key := by
  cases level with
  | none => exact iff_of_true rfl ⟨fun _ _ => trivial, fun strict => by cases strict⟩
  | medium =>
      rw [checkLegacy]
      cases found : (Utf8.encode key).find? isControl with
      | some byte =>
          have first := (find?_eq_some_iff_first isControl_iff).mp found
          exact iff_of_false (by simp) fun meets => first.not_forall meets.bytes
      | none =>
          have bytes := (find?_eq_none_iff_forall isControl_iff).mp found
          exact iff_of_true rfl ⟨bytes, fun strict => by cases strict⟩
  | strict =>
      rw [checkLegacy]
      cases found : (Utf8.encode key).find? (fun byte => !isGraphic byte) with
      | some byte =>
          have first := (find?_eq_some_iff_first not_isGraphic_iff).mp found
          exact iff_of_false (by simp) fun meets => first.not_forall meets.bytes
      | none =>
          have bytes := (find?_eq_none_iff_forall not_isGraphic_iff).mp found
          by_cases empty : (nodes key).any (·.isEmpty) = true
          · simp only [if_pos empty]
            obtain ⟨cut, areNodes, member⟩ := (any_isEmpty_nodes key).mp empty
            exact iff_of_false (by simp) fun meets => meets.nodes rfl cut areNodes member
          · simp only [if_neg empty]
            refine iff_of_true trivial ⟨bytes, fun _ cut areNodes member => empty ?_⟩
            exact (any_isEmpty_nodes key).mpr ⟨cut, areNodes, member⟩

theorem checkLegacy_eq_error_iff {level : Strictness} {key : String} {fault : KeyFault} :
    checkLegacy level key = .error fault ↔ LegacyFault level key fault := by
  constructor
  · intro outcome
    cases level with
    | none => cases outcome
    | medium =>
        rw [checkLegacy] at outcome
        cases found : (Utf8.encode key).find? isControl with
        | none => simp [found] at outcome
        | some byte =>
            rw [found] at outcome
            cases outcome
            exact .invalidByte ((find?_eq_some_iff_first isControl_iff).mp found)
    | strict =>
        rw [checkLegacy] at outcome
        cases found : (Utf8.encode key).find? (fun byte => !isGraphic byte) with
        | some byte =>
            rw [found] at outcome
            cases outcome
            exact .invalidByte ((find?_eq_some_iff_first not_isGraphic_iff).mp found)
        | none =>
            simp only [found] at outcome
            split at outcome
            · next empty =>
                cases outcome
                obtain ⟨cut, areNodes, member⟩ := (any_isEmpty_nodes key).mp empty
                exact .emptyNode rfl ((find?_eq_none_iff_forall not_isGraphic_iff).mp found)
                  areNodes member
            · cases outcome
  · intro fails
    cases fails with
    | invalidByte first =>
        cases level with
        | none =>
            obtain ⟨front, rest, -, -, forbidden⟩ := first
            exact absurd trivial forbidden
        | medium => rw [checkLegacy, (find?_eq_some_iff_first isControl_iff).mpr first]
        | strict => rw [checkLegacy, (find?_eq_some_iff_first not_isGraphic_iff).mpr first]
    | emptyNode strict bytes areNodes member =>
        subst strict
        have none := (find?_eq_none_iff_forall not_isGraphic_iff).mpr bytes
        have empty := (any_isEmpty_nodes key).mpr ⟨_, areNodes, member⟩
        rw [checkLegacy, none]
        simp only [if_pos empty]

/-! ### Keys with tags -/

/-- The name of a node, which is what stands before its first equals sign. -/
def tagName? (node : List Char) : Option (List Char) :=
  (Fields.cutOnce? (· == '=') node).map Prod.fst

theorem hasTag_iff (tag : MetricTag) (node : List Char) :
    hasTag tag node = true ↔ tagName? node = some tag.name.toList := by
  have nameless : '=' ∉ tag.name.toList := by cases tag <;> decide
  rw [hasTag, List.isPrefixOf_iff_prefix, tagName?, Option.map_eq_some_iff]
  constructor
  · rintro ⟨value, joined⟩
    refine ⟨(tag.name.toList, value), Fields.cutOnce?_eq_some_iff.mpr ⟨nameless, ?_⟩, rfl⟩
    rw [← joined, List.append_assoc, List.singleton_append]
  · rintro ⟨⟨name, value⟩, found, rfl⟩
    obtain ⟨-, rfl⟩ := Fields.cutOnce?_eq_some_iff.mp found
    exact ⟨value, by simp⟩

theorem count_tagNames (tag : MetricTag) (cut : List (List Char)) :
    (cut.filterMap tagName?).count tag.name.toList = cut.countP (hasTag tag) := by
  rw [List.count, List.countP_filterMap]
  apply List.countP_congr
  intro node _
  rw [hasTag_iff]
  cases tagName? node with
  | none => simp
  | some name => simp

/-- What is looked up at a node: nothing where it is no tag and need not be, its name where it is
one, and otherwise the fault. -/
theorem node_cases (level : Strictness) (node : List Char) :
    (AllowsNode level node ∧ tagName? node = none ∧
        ∀ rest, tagNames level (node :: rest) = tagNames level rest) ∨
      (AllowsNode level node ∧ ∃ name, tagName? node = some name ∧
        ∀ rest, tagNames level (node :: rest) = (name :: ·) <$> tagNames level rest) ∨
      (¬ AllowsNode level node ∧
        ∀ rest, tagNames level (node :: rest) = .error (.invalidTag (String.ofList node))) := by
  cases found : Fields.cutOnce? (· == '=') node with
  | none =>
      have absent : '=' ∉ node := by
        intro member
        simpa using Fields.cutOnce?_eq_none_iff.mp found '=' member
      have untagged : ¬ IsTag node := by
        rintro ⟨name, value, -, -, -, rfl⟩
        exact absent (by simp)
      by_cases strict : level = .strict
      · refine .inr (.inr ⟨fun allowed => untagged (allowed (.inl strict)), fun rest => ?_⟩)
        simp only [tagNames, found, if_pos strict]
      · refine .inl ⟨?_, by rw [tagName?, found]; rfl, fun rest => ?_⟩
        · rintro (isStrict | member)
          · exact absurd isStrict strict
          · exact absurd member absent
        · simp only [tagNames, found, if_neg strict]
  | some parts =>
      obtain ⟨name, value⟩ := parts
      obtain ⟨nameless, shape⟩ := Fields.cutOnce?_eq_some_iff.mp found
      have present : '=' ∈ node := by simp [shape]
      by_cases empty : (name.isEmpty || value.isEmpty) = true
      · refine .inr (.inr ⟨fun allowed => ?_, fun rest => ?_⟩)
        · obtain ⟨otherName, otherValue, someName, someValue, otherNameless, otherShape⟩ :=
            allowed (.inr present)
          have again := Fields.cutOnce?_eq_some_iff.mpr ⟨otherNameless, otherShape⟩
          obtain ⟨rfl, rfl⟩ := Prod.mk.inj (Option.some.inj (found.symm.trans again))
          simp [someName, someValue] at empty
        · simp only [tagNames, found, if_pos empty]
      · refine .inr (.inl ⟨fun _ => ?_, name, by rw [tagName?, found]; rfl, fun rest => ?_⟩)
        · simp only [Bool.or_eq_true, List.isEmpty_iff, not_or] at empty
          exact ⟨name, value, empty.1, empty.2, nameless, shape⟩
        · simp only [tagNames, found, if_neg empty]
          rfl

theorem tagNames_eq_ok_iff {level : Strictness} {cut : List (List Char)}
    {names : List (List Char)} :
    tagNames level cut = .ok names ↔
      (∀ node ∈ cut, AllowsNode level node) ∧ names = cut.filterMap tagName? := by
  induction cut generalizing names with
  | nil => simp [tagNames, eq_comm]
  | cons node rest inductionHypothesis =>
      rw [List.forall_mem_cons]
      rcases node_cases level node with ⟨allowed, nameless, step⟩ | ⟨allowed, name, named, step⟩ |
        ⟨refused, step⟩
      · rw [step, inductionHypothesis, List.filterMap_cons_none nameless]
        simp only [allowed, true_and]
      · rw [step, List.filterMap_cons_some named]
        simp only [allowed, true_and]
        constructor
        · intro outcome
          cases others : tagNames level rest with
          | error fault => rw [others] at outcome; cases outcome
          | ok found =>
              rw [others] at outcome
              cases outcome
              obtain ⟨all, rfl⟩ := inductionHypothesis.mp others
              exact ⟨all, rfl⟩
        · rintro ⟨all, rfl⟩
          rw [inductionHypothesis.mpr ⟨all, rfl⟩]
          rfl
      · rw [step]
        simp [refused]

theorem tagNames_eq_error_iff {level : Strictness} {cut : List (List Char)} {fault : KeyFault} :
    tagNames level cut = .error fault ↔
      ∃ node, IsFirstFailing (AllowsNode level) cut node ∧
        fault = .invalidTag (String.ofList node) := by
  induction cut with
  | nil => simp [tagNames, IsFirstFailing]
  | cons node rest inductionHypothesis =>
      simp only [isFirstFailing_cons_iff]
      rcases node_cases level node with ⟨allowed, nameless, step⟩ | ⟨allowed, name, named, step⟩ |
        ⟨refused, step⟩
      · simp only [step, inductionHypothesis, allowed, not_true, false_and, true_and, false_or]
      · simp only [step, allowed, not_true, false_and, true_and, false_or, ← inductionHypothesis]
        cases tagNames level rest with
        | error found => exact Iff.rfl
        | ok names => exact iff_of_false (by rintro ⟨⟩) (by rintro ⟨⟩)
      · simp [step, refused, eq_comm]

section Counts

variable {level : Strictness} {cut : List (List Char)} {tag : MetricTag}

theorem checkTag_eq_ok_iff :
    checkTag level (cut.filterMap tagName?) tag = .ok () ↔
      AllowsCount level (cut.countP (hasTag tag)) := by
  simp only [checkTag, count_tagNames, AllowsCount]
  split_ifs with many missing
  · simp only [false_iff]
    rintro ⟨few, -⟩
    omega
  · simp only [false_iff]
    rintro ⟨-, present⟩
    have once := present missing.2
    omega
  · refine iff_of_true rfl ⟨by omega, fun strict => ?_⟩
    have present : cut.countP (hasTag tag) ≠ 0 := fun absent => missing ⟨absent, strict⟩
    omega

theorem checkTag_eq_error_iff {fault : KeyFault} :
    checkTag level (cut.filterMap tagName?) tag = .error fault ↔
      (1 < cut.countP (hasTag tag) ∧ fault = .duplicateTag tag) ∨
        (cut.countP (hasTag tag) = 0 ∧ level = .strict ∧ fault = .missingTag tag) := by
  simp only [checkTag, count_tagNames]
  split_ifs with many missing
  · have present : cut.countP (hasTag tag) ≠ 0 := by omega
    simp [many, present, eq_comm]
  · have few : ¬ 1 < cut.countP (hasTag tag) := many
    simp [missing.1, missing.2, eq_comm]
  · have few : ¬ 1 < cut.countP (hasTag tag) := many
    simp only [few, false_and, false_or, false_iff]
    rintro ⟨absent, strict, -⟩
    exact missing ⟨absent, strict⟩

end Counts

theorem checkTagged_eq_ok_iff {level : Strictness} {key : String} :
    checkTagged level key = .ok () ↔ MeetsTagged level key := by
  by_cases undemanding : level = .none
  · rw [checkTagged, if_pos undemanding]
    exact iff_of_true rfl ⟨fun demanded => absurd undemanding demanded,
      fun demanded => absurd undemanding demanded⟩
  · rw [checkTagged, if_neg undemanding, bind_eq_ok_iff]
    constructor
    · rintro ⟨names, named, outcome⟩
      obtain ⟨tags, rfl⟩ := tagNames_eq_ok_iff.mp named
      obtain ⟨⟨⟩, units, kinds⟩ := bind_eq_ok_iff.mp outcome
      refine ⟨fun _ cut areNodes => ?_, fun _ cut areNodes tag => ?_⟩
      · exact areNodes_iff.mp areNodes ▸ tags
      · rw [← areNodes_iff.mp areNodes]
        cases tag with
        | unit => exact checkTag_eq_ok_iff.mp units
        | kind => exact checkTag_eq_ok_iff.mp kinds
    · rintro ⟨tags, counts⟩
      have allowed := tags undemanding _ (areNodes_nodes key)
      have counted := counts undemanding _ (areNodes_nodes key)
      refine ⟨_, tagNames_eq_ok_iff.mpr ⟨allowed, rfl⟩, bind_eq_ok_iff.mpr ⟨(), ?_, ?_⟩⟩
      · exact checkTag_eq_ok_iff.mpr (counted .unit)
      · exact checkTag_eq_ok_iff.mpr (counted .kind)

theorem checkTagged_eq_error_iff {level : Strictness} {key : String} {fault : KeyFault} :
    checkTagged level key = .error fault ↔ TaggedFault level key fault := by
  by_cases undemanding : level = .none
  · rw [checkTagged, if_pos undemanding]
    constructor
    · rintro ⟨⟩
    · rintro (demanded | demanded | strict)
      · exact absurd undemanding demanded
      · exact absurd undemanding demanded
      · exact absurd (undemanding.symm.trans strict) (by decide)
  · rw [checkTagged, if_neg undemanding, bind_eq_error_iff]
    constructor
    · rintro (named | ⟨names, named, outcome⟩)
      · obtain ⟨node, first, rfl⟩ := tagNames_eq_error_iff.mp named
        exact .invalidTag undemanding (areNodes_nodes key) first
      · obtain ⟨tags, rfl⟩ := tagNames_eq_ok_iff.mp named
        rcases bind_eq_error_iff.mp outcome with units | ⟨⟨⟩, units, kinds⟩
        · have first (same : MetricTag.unit = .kind) :
              AllowsCount level ((nodes key).countP (hasTag .unit)) := by cases same
          rcases checkTag_eq_error_iff.mp units with ⟨many, rfl⟩ | ⟨absent, strict, rfl⟩
          · exact .duplicateTag undemanding (areNodes_nodes key) tags first many
          · exact .missingTag strict (areNodes_nodes key) tags first absent
        · have second := fun _ : MetricTag.kind = .kind => checkTag_eq_ok_iff.mp units
          rcases checkTag_eq_error_iff.mp kinds with ⟨many, rfl⟩ | ⟨absent, strict, rfl⟩
          · exact .duplicateTag undemanding (areNodes_nodes key) tags second many
          · exact .missingTag strict (areNodes_nodes key) tags second absent
    · intro fails
      cases fails with
      | invalidTag demanded areNodes first =>
          obtain rfl := areNodes_iff.mp areNodes
          exact .inl (tagNames_eq_error_iff.mpr ⟨_, first, rfl⟩)
      | @duplicateTag cut tag demanded areNodes tags units many =>
          obtain rfl := areNodes_iff.mp areNodes
          have refused : checkTag level ((nodes key).filterMap tagName?) tag =
              .error (.duplicateTag tag) := checkTag_eq_error_iff.mpr (.inl ⟨many, rfl⟩)
          refine .inr ⟨_, tagNames_eq_ok_iff.mpr ⟨tags, rfl⟩, bind_eq_error_iff.mpr ?_⟩
          cases tag with
          | unit => exact .inl refused
          | kind => exact .inr ⟨(), checkTag_eq_ok_iff.mpr (units rfl), refused⟩
      | @missingTag cut tag strict areNodes tags units absent =>
          obtain rfl := areNodes_iff.mp areNodes
          have refused := checkTag_eq_error_iff.mpr (.inr ⟨absent, strict, rfl⟩)
          refine .inr ⟨_, tagNames_eq_ok_iff.mpr ⟨tags, rfl⟩, bind_eq_error_iff.mpr ?_⟩
          cases tag with
          | unit => exact .inl refused
          | kind => exact .inr ⟨(), checkTag_eq_ok_iff.mpr (units rfl), refused⟩

/-! ### Policies -/

theorem isTagged_iff (key : String) : isTagged key = true ↔ '=' ∈ key.toList := by
  rw [isTagged, List.contains_iff_mem]

/-- **The keys that a policy accepts** are those that meet its demands. -/
theorem check_eq_ok_iff {policy : KeyPolicy} {key : String} :
    policy.check key = .ok () ↔ Meets policy key := by
  rw [check, bind_eq_ok_iff]
  constructor
  · rintro ⟨⟨⟩, legacy, tagged⟩
    refine ⟨checkLegacy_eq_ok_iff.mp legacy, fun tags => ?_⟩
    rw [if_pos ((isTagged_iff key).mpr tags)] at tagged
    exact checkTagged_eq_ok_iff.mp tagged
  · rintro ⟨legacy, tagged⟩
    refine ⟨(), checkLegacy_eq_ok_iff.mpr legacy, ?_⟩
    by_cases tags : isTagged key = true
    · rw [if_pos tags]
      exact checkTagged_eq_ok_iff.mpr (tagged ((isTagged_iff key).mp tags))
    · rw [if_neg tags]
      rfl

/-- **The fault of a refused key** is that of the first demand it fails. -/
theorem check_eq_error_iff {policy : KeyPolicy} {key : String} {fault : KeyFault} :
    policy.check key = .error fault ↔ Faulty policy key fault := by
  rw [check, bind_eq_error_iff]
  constructor
  · rintro (legacy | ⟨⟨⟩, legacy, tagged⟩)
    · exact .legacy (checkLegacy_eq_error_iff.mp legacy)
    · by_cases tags : isTagged key = true
      · rw [if_pos tags] at tagged
        exact .tagged (checkLegacy_eq_ok_iff.mp legacy) ((isTagged_iff key).mp tags)
          (checkTagged_eq_error_iff.mp tagged)
      · rw [if_neg tags] at tagged
        cases tagged
  · rintro (legacy | ⟨legacy, tags, tagged⟩)
    · exact .inl (checkLegacy_eq_error_iff.mpr legacy)
    · refine .inr ⟨(), checkLegacy_eq_ok_iff.mpr legacy, ?_⟩
      rw [if_pos ((isTagged_iff key).mpr tags)]
      exact checkTagged_eq_error_iff.mpr tagged

/-! ### Stricter and looser policies -/

/-- One policy is at least as strict as another when each of its levels is. -/
structure IsAtLeast (strict loose : KeyPolicy) : Prop where
  legacy : loose.legacy.rank ≤ strict.legacy.rank
  tagged : loose.tagged.rank ≤ strict.tagged.rank

section Relaxing

variable {stricter looser : Strictness} (relaxes : looser.rank ≤ stricter.rank)

include relaxes

theorem eq_strict_of_rank_le (demanding : looser = .strict) : stricter = .strict := by
  subst demanding
  cases stricter <;> simp [Strictness.rank] at relaxes ⊢

theorem ne_none_of_rank_le (demanded : looser ≠ .none) : stricter ≠ .none := by
  rintro rfl
  cases looser <;> simp [Strictness.rank] at relaxes demanded

theorem Allows.relax {byte : UInt8} (allowed : Allows stricter byte) : Allows looser byte := by
  cases looser with
  | none => exact trivial
  | medium =>
      cases stricter with
      | none => simp [Strictness.rank] at relaxes
      | medium => exact allowed
      | strict =>
          obtain ⟨above, below⟩ := allowed
          exact ⟨by omega, by omega⟩
  | strict =>
      obtain rfl := eq_strict_of_rank_le relaxes rfl
      exact allowed

theorem MeetsLegacy.relax {key : String} (meets : MeetsLegacy stricter key) :
    MeetsLegacy looser key where
  bytes := fun byte member => (meets.bytes byte member).relax relaxes
  nodes := fun demanding => meets.nodes (eq_strict_of_rank_le relaxes demanding)

theorem MeetsTagged.relax {key : String} (meets : MeetsTagged stricter key) :
    MeetsTagged looser key where
  nodes := by
    intro demanded cut areNodes node member held
    apply meets.nodes (ne_none_of_rank_le relaxes demanded) cut areNodes node member
    rcases held with demanding | tagged
    · exact .inl (eq_strict_of_rank_le relaxes demanding)
    · exact .inr tagged
  counts := by
    intro demanded cut areNodes tag
    have counted := meets.counts (ne_none_of_rank_le relaxes demanded) cut areNodes tag
    exact ⟨counted.1, fun demanding => counted.2 (eq_strict_of_rank_le relaxes demanding)⟩

end Relaxing

/-- **What a stricter policy accepts, a looser one accepts.** -/
theorem check_of_isAtLeast {strict loose : KeyPolicy} (relaxes : strict.IsAtLeast loose)
    {key : String} (accepted : strict.check key = .ok ()) : loose.check key = .ok () := by
  have meets := check_eq_ok_iff.mp accepted
  apply check_eq_ok_iff.mpr
  exact ⟨meets.legacy.relax relaxes.legacy, fun tags => (meets.tagged tags).relax relaxes.tagged⟩

end KeyPolicy

end MetricIntake
