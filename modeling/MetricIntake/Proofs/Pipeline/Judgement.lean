import MetricIntake.Pipeline

/-!
Contract: everything that can become of an item.

Owns: the four outcomes of the checks, each with the checks that the item passed, the one that it
failed, and the marks after it.

Does not own: the effects of an outcome. Whoever proves something about items takes the cases from
here and does not open the checks again.
-/

set_option autoImplicit false

namespace MetricIntake.Pipeline

/-- The marks after a packet that passes every other check, where order may matter or not. -/
def Advances (config : Config) (marks : Watermarks) (packet : Packet) (advanced : Watermarks) :
    Prop :=
  (config.validateOrder = true ∧ marks.advance packet.key packet.timestamp = .ok advanced) ∨
    (config.validateOrder = false ∧ advanced = marks)

/-- What the checks make of an item. -/
inductive Judged (config : Config) (marks : Watermarks) (item : Value) :
    ItemOutcome × Watermarks → Prop where
  | invalid {error : ItemError} (unobserved : Observation.ofItem item = .error error) :
      Judged config marks item (.invalid error, marks)
  | rejected {observation : Observation} {error : PacketError}
      (observed : Observation.ofItem item = .ok observation)
      (unread : Packet.read config.policy observation.line = .error error) :
      Judged config marks item (.rejected observation.line error, marks)
  /-- The packet is not after the latest one of its key. -/
  | outOfOrder {observation : Observation} {packet : Packet} {error : OutOfOrder}
      (observed : Observation.ofItem item = .ok observation)
      (read : Packet.read config.policy observation.line = .ok packet)
      (ordered : config.validateOrder = true)
      (late : marks.advance packet.key packet.timestamp = .error error) :
      Judged config marks item (.outOfOrder observation.line packet.key error, marks)
  | dispatched {observation : Observation} {packet : Packet} {advanced : Watermarks}
      (observed : Observation.ofItem item = .ok observation)
      (read : Packet.read config.policy observation.line = .ok packet)
      (advances : Advances config marks packet advanced) :
      Judged config marks item
        (.dispatched ⟨observation.line, packet.value, packet.timestamp⟩, advanced)

theorem judge_judged (config : Config) (marks : Watermarks) (item : Value) :
    Judged config marks item (judge config marks item) := by
  unfold judge
  cases observed : Observation.ofItem item with
  | error error => exact .invalid observed
  | ok observation =>
      simp only
      cases read : Packet.read config.policy observation.line with
      | error error => exact .rejected observed read
      | ok packet =>
          simp only
          by_cases ordered : config.validateOrder = true
          · rw [if_pos ordered]
            cases verdict : marks.advance packet.key packet.timestamp with
            | error error => exact .outOfOrder observed read ordered verdict
            | ok advanced => exact .dispatched observed read (.inl ⟨ordered, verdict⟩)
          · rw [if_neg ordered]
            exact .dispatched observed read (.inr ⟨by simpa using ordered, rfl⟩)

/-- An item whose line is a packet waits for the order of its key only, and only where order
matters. -/
theorem judge_of_read (config : Config) {item : Value} {observation : Observation} {packet : Packet}
    (observed : Observation.ofItem item = .ok observation)
    (read : Packet.read config.policy observation.line = .ok packet) (marks : Watermarks) :
    judge config marks item =
      if config.validateOrder then
        match marks.advance packet.key packet.timestamp with
        | .error error => (.outOfOrder observation.line packet.key error, marks)
        | .ok advanced =>
            (.dispatched ⟨observation.line, packet.value, packet.timestamp⟩, advanced)
      else (.dispatched ⟨observation.line, packet.value, packet.timestamp⟩, marks) := by
  cases verdict : marks.advance packet.key packet.timestamp <;>
    simp only [judge, observed, read, verdict]

/-- An item has the outcome and the marks that the checks give it, and the effects of that
outcome. -/
theorem processItem_eq (config : Config) (pipeline : Pipeline) (item : Value) :
    processItem config pipeline item =
      ((judge config pipeline.watermarks item).1,
        { pipeline.countItem.record (judge config pipeline.watermarks item).1 with
          watermarks := (judge config pipeline.watermarks item).2 }) := rfl

end MetricIntake.Pipeline
