import MetricIntake.Pickle.Canonical
import MetricIntake.Pickle.Machine
import MetricIntake.Proofs.Outcome
import MetricIntake.Proofs.Pickle.Reading

/-!
Contract: the instructions of a value build one object and leave everything else as it was.

Owns:
- runs of a machine over bytes, which go on with whatever follows and run out on fewer bytes;
- the object of a value;
- the values whose byte strings spell texts, and that the instructions of such a value push its
  object.

Does not own: the value of an object.

## Why runs of their own

The machine spends fuel and counts offsets, and neither matters here. A run is therefore given by
the instructions read from its bytes and their effects alone. Two facts lead back to the machine:
it gets to the end of a run if its fuel is at least the number of bytes, and in front of a part of
the bytes it runs out of input, whatever its fuel is.
-/

set_option autoImplicit false

namespace MetricIntake.Pickle

namespace Machine

/-- A machine goes from one state to another over some bytes. -/
inductive Executes : Machine → Bytes → Machine → Prop where
  | refl (machine : Machine) : Executes machine [] machine
  /-- One instruction that is not the last, and then the others. -/
  | step {before middle after : Machine} {instruction : Instruction} {front back : Bytes}
      (accepted : Accepts Instruction.read front instruction)
      (continues : instruction ≠ .stop)
      (effect : before.step instruction = .ok middle)
      (others : Executes middle back after) :
      Executes before (front ++ back) after

namespace Executes

variable {before middle after : Machine} {front back bytes : Bytes} {instruction : Instruction}

theorem one (accepted : Accepts Instruction.read bytes instruction)
    (continues : instruction ≠ .stop) (effect : before.step instruction = .ok after) :
    Executes before bytes after := by
  have single := Executes.step accepted continues effect (.refl after)
  rwa [List.append_nil] at single

theorem push {object : Object} (accepted : Accepts Instruction.read bytes (.push object)) :
    Executes before bytes (before.push object) :=
  one accepted (by simp) rfl

theorem trans (first : Executes before front middle) (second : Executes middle back after) :
    Executes before (front ++ back) after := by
  induction first with
  | refl machine => exact second
  | step accepted continues effect others inductionHypothesis =>
      rw [List.append_assoc]
      exact .step accepted continues effect (inductionHypothesis second)

end Executes

theorem accepted_ne_nil {bytes : Bytes} {instruction : Instruction}
    (accepted : Accepts Instruction.read bytes instruction) : bytes ≠ [] := by
  rintro rfl
  have read := accepted.complete 0 []
  simp [Instruction.read] at read

theorem run_step {machine after : Machine} {cursor next : Cursor} {instruction : Instruction}
    (fuel : Nat) (read : Instruction.read cursor = .ok (instruction, next))
    (continues : instruction ≠ .stop) (effect : machine.step instruction = .ok after) :
    run (fuel + 1) machine cursor = run fuel after next := by
  rw [run, read]
  simp only [bind, Except.bind]
  cases instruction with
  | stop => exact absurd rfl continues
  | _ => simp only [effect]

/-- With as much fuel as there are bytes a machine gets to the end of a run, and has as much fuel
left as bytes may follow. -/
theorem Executes.run_eq {before after : Machine} {bytes : Bytes}
    (executes : Executes before bytes after) (spare : Nat) :
    ∃ left, spare ≤ left ∧ ∀ offset rest,
      run (bytes.length + spare) before ⟨offset, bytes ++ rest⟩ =
        run left after ⟨offset + bytes.length, rest⟩ := by
  induction executes generalizing spare with
  | refl machine => exact ⟨spare, Nat.le_refl _, fun offset rest => by simp⟩
  | @step before middle after instruction front back accepted continues effect others
      inductionHypothesis =>
      have positive := List.length_pos_iff.mpr (accepted_ne_nil accepted)
      obtain ⟨left, enough, runs⟩ := inductionHypothesis (front.length - 1 + spare)
      refine ⟨left, by omega, fun offset rest => ?_⟩
      have fuel : (front ++ back).length + spare =
          back.length + (front.length - 1 + spare) + 1 := by
        rw [List.length_append]
        omega
      rw [fuel, List.append_assoc,
        run_step _ (accepted.complete offset (back ++ rest)) continues effect, runs,
        List.length_append, Nat.add_assoc]

theorem Executes.run_truncated {before after : Machine} {bytes : Bytes}
    (executes : Executes before bytes after) (fuel offset : Nat) {short : Bytes}
    (truncates : Truncates short bytes) :
    run fuel before ⟨offset, short⟩ = .error .endOfInput := by
  induction executes generalizing fuel offset short with
  | refl machine => exact absurd truncates Truncates.not_nil
  | @step before middle after instruction front back accepted continues effect others
      inductionHypothesis =>
      cases fuel with
      | zero => rfl
      | succ fuel =>
          rcases truncates.append_cases with within | ⟨more, rfl, beyond⟩
          · rw [run, accepted.truncated offset short within]
            rfl
          · rw [run_step _ (accepted.complete offset more) continues effect]
            exact inductionHypothesis fuel _ beyond

/-! ### Objects on the stack -/

/-- The state with some objects on top, the last of them topmost. -/
def pushAll (machine : Machine) (objects : List Object) : Machine :=
  { machine with stack := objects.reverse ++ machine.stack }

def marked (machine : Machine) : Machine :=
  { machine with stack := [], saved := machine.stack :: machine.saved }

theorem pushAll_cons (machine : Machine) (object : Object) (objects : List Object) :
    machine.pushAll (object :: objects) = (machine.push object).pushAll objects := by
  simp [pushAll, push]

theorem popMany_pushAll (machine : Machine) (objects : List Object) :
    (machine.pushAll objects).popMany objects.length = .ok (objects, machine) := by
  have popped (topFirst : List Object) :
      ({ machine with stack := topFirst ++ machine.stack } : Machine).popMany topFirst.length =
        .ok (topFirst.reverse, machine) := by
    induction topFirst with
    | nil => rfl
    | cons object topFirst inductionHypothesis =>
        simp only [List.length_cons, popMany, pop, List.cons_append, bind, Except.bind,
          inductionHypothesis, pure, Except.pure, List.reverse_cons]
  have whole := popped objects.reverse
  rwa [List.length_reverse, List.reverse_reverse] at whole

theorem popMark_pushAll (machine : Machine) (objects : List Object) :
    (machine.marked.pushAll objects).popMark = .ok (objects, machine) := by
  simp [popMark, pushAll, marked]

theorem step_appendStack (machine : Machine) (objects : List Object) :
    ((machine.push (.list [])).marked.pushAll objects).step .appendStack =
      .ok (machine.push (.list objects)) := by
  rw [step, popMark_pushAll]
  rfl

theorem step_insertStack (machine : Machine) (objects : List Object) :
    ((machine.push (.dict [])).marked.pushAll objects).step .insertStack =
      .ok (machine.push (.dict (pairs objects))) := by
  rw [step, popMark_pushAll]
  rfl

theorem step_tupleOfStack (machine : Machine) (objects : List Object) :
    (machine.marked.pushAll objects).step .tupleOfStack = .ok (machine.push (.tuple objects)) := by
  simp [step, execute, collect, popMark_pushAll, evaluated, bind, Except.bind, pure, Except.pure]

theorem step_tuple (machine : Machine) (objects : List Object) :
    (machine.pushAll objects).step (.tuple objects.length) =
      .ok (machine.push (.tuple objects)) := by
  simp [step, execute, popMany_pushAll, evaluated, bind, Except.bind, pure, Except.pure]

theorem pairs_flatMap (entries : List (Object × Object)) :
    pairs (entries.flatMap fun entry => [entry.1, entry.2]) = entries := by
  induction entries with
  | nil => rfl
  | cons entry entries inductionHypothesis =>
      simpa [pairs] using inductionHypothesis

end Machine

/-! ### The object of a value -/

open Instruction (integerObject)

mutual

def objectOf : Value → Object
  | .null => .null
  | .bool truth => .bool truth
  | .text content => .text content
  | .bytes content => .text ((Utf8.decode? content).getD "")
  | .signed number => integerObject number.toInt
  | .unsigned number => integerObject number.toNat
  | .bigInteger number => integerObject number
  | .float number => .float number
  | .list items => .list (objectsOf items)
  | .tuple items => .tuple (objectsOf items)
  | .set items => .set (objectsOf items)
  | .dict entries => .dict (entryObjectsOf entries)

def objectsOf : List Value → List Object
  | [] => []
  | item :: rest => objectOf item :: objectsOf rest

def entryObjectsOf : List (Value × Value) → List (Object × Object)
  | [] => []
  | (key, value) :: rest => (objectOf key, objectOf value) :: entryObjectsOf rest

end

theorem objectsOf_length (items : List Value) : (objectsOf items).length = items.length := by
  induction items with
  | nil => rfl
  | cons item items inductionHypothesis =>
      rw [objectsOf, List.length_cons, List.length_cons, inductionHypothesis]

namespace Machine

theorem executes_filled {machine : Machine} {empty fill : UInt8} {items : Bytes}
    {start result : Object} {objects : List Object} {instruction : Instruction}
    (starts : Accepts Instruction.read [empty] (.push start))
    (fills : Accepts Instruction.read [fill] instruction) (continues : instruction ≠ .stop)
    (effect : ((machine.push start).marked.pushAll objects).step instruction =
      .ok (machine.push result))
    (executed : Executes (machine.push start).marked items
      ((machine.push start).marked.pushAll objects)) :
    Executes machine (Encoding.filled empty fill items false) (machine.push result) := by
  have marks : Accepts Instruction.read [0x28] .mark :=
    Instruction.read_accepts_opcode fun _ => rfl
  have inside : Executes machine ([empty] ++ ([0x28] ++ (items ++ [fill])))
      (machine.push result) :=
    (Executes.push starts).trans
      ((Executes.one marks (by simp) rfl).trans
        (executed.trans (.one fills continues effect)))
  simpa [Encoding.filled] using inside

/-- A tuple takes its items from the stack, small ones by their number. -/
theorem executes_wrapTuple (machine : Machine) {items : Bytes} {objects : List Object}
    (executed : ∀ below : Machine, Executes below items (below.pushAll objects))
    (nothing : objects.length = 0 → items = []) :
    Executes machine (Encoding.wrapTuple objects.length items) (machine.push (.tuple objects)) := by
  have small {opcode : UInt8}
      (accepted : Accepts Instruction.read [opcode] (.tuple objects.length)) :
      Executes machine (items ++ [opcode]) (machine.push (.tuple objects)) :=
    (executed machine).trans (.one accepted (by simp) (step_tuple machine objects))
  match size : objects.length with
  | 0 =>
      obtain rfl := List.length_eq_zero_iff.mp size
      exact .push (Instruction.read_accepts_opcode fun _ => rfl)
  | 1 => exact small (Instruction.read_accepts_opcode fun _ => by rw [size]; rfl)
  | 2 => exact small (Instruction.read_accepts_opcode fun _ => by rw [size]; rfl)
  | 3 => exact small (Instruction.read_accepts_opcode fun _ => by rw [size]; rfl)
  | _ + 4 =>
      have marks : Accepts Instruction.read [0x28] .mark :=
        Instruction.read_accepts_opcode fun _ => rfl
      have wraps : Accepts Instruction.read [0x74] .tupleOfStack :=
        Instruction.read_accepts_opcode fun _ => rfl
      have inside : Executes machine ([0x28] ++ (items ++ [0x74]))
          (machine.push (.tuple objects)) :=
        (Executes.one marks (by simp) rfl).trans
          ((executed machine.marked).trans
            (.one wraps (by simp) (step_tupleOfStack machine objects)))
      exact inside

end Machine

/-! ### The instructions of a value -/

/-- Byte strings of a value, those in keys included, spell texts. Sets, which have no instructions,
are left out. -/
inductive Legible : Value → Prop where
  | null : Legible .null
  | bool (truth : Bool) : Legible (.bool truth)
  | text (content : String) : Legible (.text content)
  | bytes {content : Bytes} {spelled : String} (spells : Utf8.decode? content = some spelled) :
      Legible (.bytes content)
  | signed (number : Int64) : Legible (.signed number)
  | unsigned (number : UInt64) : Legible (.unsigned number)
  | bigInteger (number : Int) : Legible (.bigInteger number)
  | float (number : Binary64) : Legible (.float number)
  | list {items : List Value} (each : ∀ item ∈ items, Legible item) : Legible (.list items)
  | tuple {items : List Value} (each : ∀ item ∈ items, Legible item) : Legible (.tuple items)
  | dict {entries : List (Value × Value)} (keys : ∀ entry ∈ entries, Legible entry.1)
      (values : ∀ entry ∈ entries, Legible entry.2) : Legible (.dict entries)

/-- Whatever the instructions of a value are run on, they push its object and change nothing else. -/
def Pushes (value : Value) : Prop :=
  ∀ bytes, Encoding.instructions value = .ok bytes →
    ∀ machine : Machine, machine.Executes bytes (machine.push (objectOf value))

theorem instructionsAll_execute {items : List Value} {bytes : Bytes}
    (each : ∀ item ∈ items, Pushes item) (written : Encoding.instructionsAll items = .ok bytes)
    (machine : Machine) : machine.Executes bytes (machine.pushAll (objectsOf items)) := by
  induction items generalizing bytes machine with
  | nil =>
      obtain rfl := Except.ok.inj written
      exact .refl machine
  | cons item rest inductionHypothesis =>
      obtain ⟨first, writtenFirst, continued⟩ := bind_eq_ok_iff.mp written
      obtain ⟨others, writtenOthers, finished⟩ := bind_eq_ok_iff.mp continued
      obtain rfl := Except.ok.inj finished
      rw [List.forall_mem_cons] at each
      rw [objectsOf, Machine.pushAll_cons]
      exact (each.1 first writtenFirst machine).trans
        (inductionHypothesis each.2 writtenOthers _)

theorem instructionsEntries_execute {entries : List (Value × Value)} {bytes : Bytes}
    (keys : ∀ entry ∈ entries, Pushes entry.1) (values : ∀ entry ∈ entries, Pushes entry.2)
    (written : Encoding.instructionsEntries entries = .ok bytes) (machine : Machine) :
    machine.Executes bytes (machine.pushAll
      ((entryObjectsOf entries).flatMap fun entry => [entry.1, entry.2])) := by
  induction entries generalizing bytes machine with
  | nil =>
      obtain rfl := Except.ok.inj written
      exact .refl machine
  | cons entry rest inductionHypothesis =>
      obtain ⟨key, value⟩ := entry
      obtain ⟨first, writtenFirst, continued⟩ := bind_eq_ok_iff.mp written
      obtain ⟨second, writtenSecond, continued⟩ := bind_eq_ok_iff.mp continued
      obtain ⟨others, writtenOthers, finished⟩ := bind_eq_ok_iff.mp continued
      obtain rfl := Except.ok.inj finished
      rw [List.forall_mem_cons] at keys values
      rw [entryObjectsOf, List.flatMap_cons, List.cons_append, List.cons_append,
        List.nil_append, Machine.pushAll_cons, Machine.pushAll_cons, List.append_assoc]
      exact (keys.1 first writtenFirst machine).trans
        ((values.1 second writtenSecond _).trans
          (inductionHypothesis keys.2 values.2 writtenOthers _))

/-- **The instructions of a value push its object** and change nothing else. -/
theorem Legible.pushes {value : Value} (legible : Legible value) : Pushes value := by
  induction legible with
  | null =>
      intro bytes written machine
      obtain rfl := Except.ok.inj written
      exact .push (Instruction.read_accepts_opcode fun _ => rfl)
  | bool truth =>
      intro bytes written machine
      cases truth <;> obtain rfl := Except.ok.inj written <;>
        exact .push (Instruction.read_accepts_opcode fun _ => rfl)
  | text content => exact fun bytes written machine => .push (Instruction.text_accepts written)
  | bytes spells =>
      intro bytes written machine
      rw [objectOf, spells]
      exact .push (Instruction.shortBytes_accepts written spells)
  | signed number => exact fun bytes written machine => .push (Instruction.integer_accepts written)
  | unsigned number => exact fun bytes written machine => .push (Instruction.integer_accepts written)
  | bigInteger number =>
      exact fun bytes written machine => .push (Instruction.integer_accepts written)
  | float number =>
      intro bytes written machine
      obtain rfl := Except.ok.inj written
      exact .push (Instruction.float_accepts number)
  | @list items each pushed =>
      intro bytes written machine
      obtain ⟨inner, writtenAll, finished⟩ := bind_eq_ok_iff.mp written
      obtain rfl := Except.ok.inj finished
      have starts : Accepts Instruction.read [0x5D] (.push (.list [])) :=
        Instruction.read_accepts_opcode fun _ => rfl
      match items with
      | [] => exact .push starts
      | item :: rest =>
          exact Machine.executes_filled starts
            (Instruction.read_accepts_opcode fun _ => rfl) (by simp)
            (Machine.step_appendStack machine _)
            (instructionsAll_execute pushed writtenAll _)
  | @tuple items each pushed =>
      intro bytes written machine
      obtain ⟨inner, writtenAll, finished⟩ := bind_eq_ok_iff.mp written
      obtain rfl := Except.ok.inj finished
      have wrapped := Machine.executes_wrapTuple machine
        (instructionsAll_execute pushed writtenAll) (fun none => by
          rw [objectsOf_length, List.length_eq_zero_iff] at none
          subst none
          exact (Except.ok.inj writtenAll).symm)
      rw [objectsOf_length] at wrapped
      exact wrapped
  | @dict entries keys values keysPushed valuesPushed =>
      intro bytes written machine
      obtain ⟨inner, writtenEntries, finished⟩ := bind_eq_ok_iff.mp written
      obtain rfl := Except.ok.inj finished
      have starts : Accepts Instruction.read [0x7D] (.push (.dict [])) :=
        Instruction.read_accepts_opcode fun _ => rfl
      match entries with
      | [] => exact .push starts
      | entry :: rest =>
          have filled := Machine.step_insertStack machine
            ((entryObjectsOf (entry :: rest)).flatMap fun entry => [entry.1, entry.2])
          rw [Machine.pairs_flatMap] at filled
          exact Machine.executes_filled starts
            (Instruction.read_accepts_opcode fun _ => rfl) (by simp) filled
            (instructionsEntries_execute keysPushed valuesPushed writtenEntries _)

end MetricIntake.Pickle
