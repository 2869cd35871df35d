import Mathlib.Data.List.Induction
import MetricIntake.Dispatch
import MetricIntake.Proofs.Telemetry

/-!
Contract: a queue between the pipeline and its consumer loses no metric without counting it.

Owns:
- what one call does to a queue;
- the ledger of the calls on a queue: what was sent, what of it was dropped, what was received;
- that the queue agrees with its ledger after every sequence of calls.

Does not own: which metrics are sent, and when the consumer asks for them.
-/

set_option autoImplicit false

namespace MetricIntake.DispatchQueue

/-! ### One call -/

/-- What can be done to a queue. -/
inductive Call where
  | send (metric : Metric)
  | receive
  /-- The consumer leaves. -/
  | close
deriving DecidableEq, Repr

def Call.metric : Call → Option Metric
  | .send metric => some metric
  | _ => none

/-- Whether a metric that is sent now is dropped, which is when nothing gets in line for it. -/
def drops (queue : DispatchQueue) (metric : Metric) : Bool :=
  decide ((queue.send metric).waiting = queue.waiting)

/-- There is a consumer, and fewer metrics are waiting than may wait. -/
def HasRoom (queue : DispatchQueue) : Prop :=
  queue.isOpen = true ∧ queue.waiting.length < queue.capacity

section OneCall

variable {queue : DispatchQueue}

theorem send_of_hasRoom (room : queue.HasRoom) (metric : Metric) :
    queue.send metric = { queue with waiting := queue.waiting ++ [metric] } := by
  have guarded : (queue.isOpen && decide (queue.waiting.length < queue.capacity)) = true := by
    rw [Bool.and_eq_true, decide_eq_true_eq]
    exact room
  unfold send
  rw [if_pos guarded]

theorem send_of_not_hasRoom (noRoom : ¬queue.HasRoom) (metric : Metric) :
    queue.send metric =
      { queue with telemetry := queue.telemetry.increment .droppedDispatches } := by
  have guarded : ¬(queue.isOpen && decide (queue.waiting.length < queue.capacity)) = true := by
    rw [Bool.and_eq_true, decide_eq_true_eq]
    exact noRoom
  unfold send
  rw [if_neg guarded]

/-- A metric is dropped exactly where there is no room for it. -/
theorem drops_eq_true_iff (metric : Metric) : queue.drops metric = true ↔ ¬queue.HasRoom := by
  rw [drops, decide_eq_true_eq]
  by_cases room : queue.HasRoom
  · rw [send_of_hasRoom room]
    simpa using room
  · rw [send_of_not_hasRoom room]
    simpa using room

theorem send_isOpen (metric : Metric) : (queue.send metric).isOpen = queue.isOpen := by
  unfold send
  split <;> rfl

theorem receive_isOpen : queue.receive.2.isOpen = queue.isOpen := by
  unfold receive
  split <;> rfl

theorem receive_capacity : queue.receive.2.capacity = queue.capacity := by
  unfold receive
  split <;> rfl

theorem receive_telemetry : queue.receive.2.telemetry = queue.telemetry := by
  unfold receive
  split <;> rfl

/-- What is handed to the consumer is the front of what was waiting. -/
theorem receive_waiting (queue : DispatchQueue) :
    queue.receive.1.toList ++ queue.receive.2.waiting = queue.waiting := by
  unfold receive
  cases waiting : queue.waiting with
  | nil => simpa using waiting
  | cons metric rest => rfl

theorem receive_head? (queue : DispatchQueue) : queue.receive.1 = queue.waiting.head? := by
  unfold receive
  cases queue.waiting <;> rfl

end OneCall

/-! ### The ledger -/

/-- A queue with the history of the calls on it. -/
structure Ledger where
  queue : DispatchQueue
  /-- The metrics that were sent, the first one first, each with whether it was dropped. -/
  sent : List (Metric × Bool)
  /-- The metrics that the consumer received, the first one first. -/
  received : List Metric

namespace Ledger

def start (queue : DispatchQueue) : Ledger := ⟨queue, [], []⟩

/-- The metrics that were sent and not dropped. -/
def kept (ledger : Ledger) : List Metric :=
  (ledger.sent.filter fun entry => !entry.2).map Prod.fst

def dropCount (ledger : Ledger) : Nat :=
  ledger.sent.countP Prod.snd

def note (ledger : Ledger) : Call → Ledger
  | .send metric =>
      { ledger with
        queue := ledger.queue.send metric
        sent := ledger.sent ++ [(metric, ledger.queue.drops metric)] }
  | .receive =>
      { ledger with
        queue := ledger.queue.receive.2
        received := ledger.received ++ ledger.queue.receive.1.toList }
  | .close => { ledger with queue := ledger.queue.close }

def noteAll (ledger : Ledger) (calls : List Call) : Ledger :=
  calls.foldl note ledger

theorem noteAll_concat (ledger : Ledger) (calls : List Call) (call : Call) :
    ledger.noteAll (calls ++ [call]) = (ledger.noteAll calls).note call :=
  List.foldl_append

theorem kept_note_send (ledger : Ledger) (metric : Metric) :
    (ledger.note (.send metric)).kept =
      ledger.kept ++ if ledger.queue.drops metric then [] else [metric] := by
  simp only [kept, note, List.filter_append, List.map_append]
  cases ledger.queue.drops metric <;> rfl

theorem dropCount_note_send (ledger : Ledger) (metric : Metric) :
    (ledger.note (.send metric)).dropCount =
      ledger.dropCount + if ledger.queue.drops metric then 1 else 0 := by
  simp only [dropCount, note, List.countP_append]
  cases ledger.queue.drops metric <;> rfl

/-! ### What the ledger and the queue agree on -/

/-- A queue of some capacity agrees with its ledger. -/
structure Agrees (limit : Nat) (ledger : Ledger) : Prop where
  capacity : ledger.queue.capacity = limit
  bounded : ledger.queue.waiting.length ≤ limit
  kept : ledger.queue.isOpen = true → ledger.received ++ ledger.queue.waiting = ledger.kept
  counted : ledger.queue.telemetry.reading .droppedDispatches = UInt64.ofNat ledger.dropCount

namespace Agrees

variable {limit : Nat} {ledger : Ledger}

theorem start (positive : 0 < limit) {queue : DispatchQueue} (created : create limit = .ok queue) :
    Agrees limit (.start queue) := by
  unfold create at created
  rw [if_neg (Nat.ne_of_gt positive)] at created
  obtain rfl := Except.ok.inj created
  exact ⟨rfl, Nat.zero_le _, fun _ => rfl, rfl⟩

/-- A metric that gets in line is the last of those that are waiting and of those that are kept. -/
theorem send_kept (agrees : Agrees limit ledger) (room : ledger.queue.HasRoom)
    (metric : Metric) : Agrees limit (ledger.note (.send metric)) := by
  have sent : (ledger.note (.send metric)).queue =
      { ledger.queue with waiting := ledger.queue.waiting ++ [metric] } :=
    send_of_hasRoom room metric
  have inLine : ledger.queue.drops metric = false := by
    rw [← Bool.not_eq_true, drops_eq_true_iff]
    exact not_not_intro room
  constructor
  case capacity => rw [sent, agrees.capacity]
  case bounded =>
    have shorter := room.2
    rw [agrees.capacity] at shorter
    rw [sent, List.length_append, List.length_singleton]
    exact shorter
  case kept =>
    intro _
    rw [sent, kept_note_send, inLine, if_neg Bool.false_ne_true, ← agrees.kept room.1,
      List.append_assoc]
    rfl
  case counted =>
    rw [sent, dropCount_note_send, inLine, if_neg Bool.false_ne_true]
    exact agrees.counted

/-- A metric for which there is no room changes nothing but the number of drops. -/
theorem send_dropped (agrees : Agrees limit ledger) (noRoom : ¬ledger.queue.HasRoom)
    (metric : Metric) : Agrees limit (ledger.note (.send metric)) := by
  have sent : (ledger.note (.send metric)).queue =
      { ledger.queue with
        telemetry := ledger.queue.telemetry.increment .droppedDispatches } :=
    send_of_not_hasRoom noRoom metric
  have dropped : ledger.queue.drops metric = true := (drops_eq_true_iff metric).mpr noRoom
  constructor
  case capacity => rw [sent, agrees.capacity]
  case bounded =>
    rw [sent]
    exact agrees.bounded
  case kept =>
    intro stillOpen
    rw [sent] at stillOpen ⊢
    rw [kept_note_send, dropped, if_pos rfl, List.append_nil]
    exact agrees.kept stillOpen
  case counted =>
    rw [sent, dropCount_note_send, dropped, if_pos rfl, Telemetry.reading_increment, if_pos rfl,
      agrees.counted, UInt64.ofNat_add]
    rfl

theorem receive (agrees : Agrees limit ledger) : Agrees limit (ledger.note .receive) := by
  have front := receive_waiting ledger.queue
  constructor
  case capacity => exact receive_capacity.trans agrees.capacity
  case bounded =>
    have lengths := congrArg List.length front
    rw [List.length_append] at lengths
    have before := agrees.bounded
    show ledger.queue.receive.2.waiting.length ≤ limit
    omega
  case kept =>
    intro stillOpen
    have wasOpen : ledger.queue.isOpen = true := receive_isOpen.symm.trans stillOpen
    show (ledger.received ++ ledger.queue.receive.1.toList) ++ ledger.queue.receive.2.waiting =
      ledger.kept
    rw [List.append_assoc, front]
    exact agrees.kept wasOpen
  case counted =>
    show ledger.queue.receive.2.telemetry.reading .droppedDispatches = _
    rw [receive_telemetry]
    exact agrees.counted

theorem close (agrees : Agrees limit ledger) : Agrees limit (ledger.note .close) where
  capacity := agrees.capacity
  bounded := Nat.zero_le _
  kept stillOpen := absurd stillOpen Bool.false_ne_true
  counted := agrees.counted

theorem note (agrees : Agrees limit ledger) (call : Call) : Agrees limit (ledger.note call) := by
  cases call with
  | send metric =>
      by_cases room : ledger.queue.HasRoom
      · exact agrees.send_kept room metric
      · exact agrees.send_dropped room metric
  | receive => exact agrees.receive
  | close => exact agrees.close

theorem noteAll (agrees : Agrees limit ledger) (calls : List Call) :
    Agrees limit (ledger.noteAll calls) := by
  induction calls generalizing ledger with
  | nil => exact agrees
  | cons call calls inductionHypothesis => exact inductionHypothesis (agrees.note call)

end Agrees

/-- The consumer is there until a call of it to leave. -/
theorem noteAll_isOpen {queue : DispatchQueue} (wasOpen : queue.isOpen = true)
    (calls : List Call) :
    ((start queue).noteAll calls).queue.isOpen = true ↔ .close ∉ calls := by
  induction calls using List.reverseRecOn with
  | nil => simpa [noteAll, start] using wasOpen
  | append_singleton calls call inductionHypothesis =>
      rw [noteAll_concat]
      cases call with
      | send metric =>
          have kept : (((start queue).noteAll calls).note (.send metric)).queue.isOpen =
              ((start queue).noteAll calls).queue.isOpen := send_isOpen metric
          rw [kept, inductionHypothesis]
          simp
      | receive =>
          have kept : (((start queue).noteAll calls).note .receive).queue.isOpen =
              ((start queue).noteAll calls).queue.isOpen := receive_isOpen
          rw [kept, inductionHypothesis]
          simp
      | close => simp [note, DispatchQueue.close]

/-- The ledger lists every metric that was sent. -/
theorem noteAll_sent (queue : DispatchQueue) (calls : List Call) :
    ((start queue).noteAll calls).sent.map Prod.fst = calls.filterMap Call.metric := by
  induction calls using List.reverseRecOn with
  | nil => rfl
  | append_singleton calls call inductionHypothesis =>
      rw [noteAll_concat, List.filterMap_append, ← inductionHypothesis]
      cases call with
      | send metric => exact List.map_append
      | receive => exact (List.append_nil _).symm
      | close => exact (List.append_nil _).symm

end Ledger

/-! ### Nothing is lost -/

/-- What holds of a queue after some calls, by the ledger of them. -/
structure LosesNothing (limit : Nat) (calls : List Call) (ledger : Ledger) : Prop where
  /-- The ledger lists what was sent. -/
  sent : ledger.sent.map Prod.fst = calls.filterMap Call.metric
  /-- Until the consumer leaves, what it received and what is waiting for it are together what was
  sent and not dropped. -/
  kept : .close ∉ calls → ledger.received ++ ledger.queue.waiting = ledger.kept
  /-- No more metrics are waiting than may wait. -/
  bounded : ledger.queue.waiting.length ≤ limit
  /-- Until the consumer leaves, the next metric is dropped exactly if as many are waiting as may
  wait. -/
  drops_iff : .close ∉ calls → ∀ metric,
    ledger.queue.drops metric = true ↔ ledger.queue.waiting.length = limit
  /-- The next metric to be received is the one that waits longest. -/
  delivers : ledger.queue.receive.1 = ledger.queue.waiting.head?
  /-- The reading is the number of drops, in 64 bits. -/
  counted : ledger.queue.telemetry.reading .droppedDispatches = UInt64.ofNat ledger.dropCount
  /-- After the consumer left, the next metric is dropped and counts once. -/
  closed : .close ∈ calls → ∀ metric, ledger.queue.drops metric = true ∧
    (ledger.queue.send metric).telemetry.reading .droppedDispatches =
      ledger.queue.telemetry.reading .droppedDispatches + 1

/-- A queue loses nothing if it agrees with its ledger and has a consumer until that leaves. -/
theorem Ledger.Agrees.losesNothing {limit : Nat} {calls : List Call} {ledger : Ledger}
    (agrees : Agrees limit ledger) (sent : ledger.sent.map Prod.fst = calls.filterMap Call.metric)
    (isOpen : ledger.queue.isOpen = true ↔ .close ∉ calls) : LosesNothing limit calls ledger where
  sent := sent
  kept stays := agrees.kept (isOpen.mpr stays)
  bounded := agrees.bounded
  drops_iff := by
    intro stays metric
    have room : ledger.queue.HasRoom ↔ ledger.queue.waiting.length < limit := by
      unfold HasRoom
      rw [agrees.capacity]
      exact and_iff_right (isOpen.mpr stays)
    have bounded := agrees.bounded
    rw [drops_eq_true_iff, room]
    omega
  delivers := receive_head? ledger.queue
  counted := agrees.counted
  closed := by
    intro left metric
    have noRoom : ¬ledger.queue.HasRoom := fun room => isOpen.mp room.1 left
    refine ⟨(drops_eq_true_iff metric).mpr noRoom, ?_⟩
    rw [send_of_not_hasRoom noRoom, Telemetry.reading_increment, if_pos rfl]

/-- **A queue loses no metric without counting it.** With room for at least one metric, and after
any calls, the metrics that were received and those that are waiting are, in order, what was sent
and not dropped. A metric is dropped exactly if the queue is full or the consumer has left, and
every drop is counted. -/
theorem create_losesNothing {limit : Nat} (positive : 0 < limit) :
    ∃ queue, create limit = .ok queue ∧
      ∀ calls, LosesNothing limit calls ((Ledger.start queue).noteAll calls) := by
  have created : create limit = .ok ⟨limit, [], true, .empty⟩ := if_neg (Nat.ne_of_gt positive)
  refine ⟨⟨limit, [], true, .empty⟩, created, fun calls => ?_⟩
  have agrees := (Ledger.Agrees.start positive created).noteAll calls
  exact agrees.losesNothing (Ledger.noteAll_sent _ calls) (Ledger.noteAll_isOpen rfl calls)

/-- A queue with room for one metric drops the second of two, takes the third once the first was
received, and drops the fourth because the consumer has left. -/
theorem create_losesNothing_one :
    let metric (second : UInt32) : Metric := ⟨[97], ⟨0⟩, second⟩
    ∃ queue, 0 < 1 ∧ create 1 = .ok queue ∧
      let ledger := (Ledger.start queue).noteAll
        [.send (metric 1), .send (metric 2), .receive, .send (metric 3)]
      ledger.received ++ ledger.queue.waiting = [metric 1, metric 3] ∧
        ledger.queue.drops (metric 4) = true ∧
        ledger.queue.telemetry.reading .droppedDispatches = 1 ∧
        (ledger.note .close).queue.drops (metric 4) = true := by
  intro metric
  obtain ⟨queue, created, loses⟩ := create_losesNothing (show 0 < 1 by decide)
  obtain rfl : ⟨1, [], true, .empty⟩ = queue := Except.ok.inj created
  refine ⟨_, by decide, rfl, ?_⟩
  intro ledger
  have thrice := loses [.send (metric 1), .send (metric 2), .receive, .send (metric 3)]
  refine ⟨thrice.kept (by decide), ?_, thrice.counted, ?_⟩
  · exact (thrice.drops_iff (by decide) (metric 4)).mpr rfl
  · have left := loses [.send (metric 1), .send (metric 2), .receive, .send (metric 3), .close]
    exact (left.closed (by decide) (metric 4)).1

end MetricIntake.DispatchQueue
