import MetricIntake.Pickle.Instruction
import MetricIntake.Pickle.Memo

/-!
Contract: what the instructions of a payload do.

Owns:
- the state: the current stack, the stacks saved by marks, and the memo;
- the effect of each instruction, and of calling a function;
- running a payload to its end instruction.

Does not own: the bytes of instructions, nor the value of the resulting object.
-/

namespace MetricIntake.Pickle

/-- The state while a payload is read. -/
structure Machine where
  /-- The current stack, top first. -/
  stack : List Object
  /-- The stacks that marks put aside, the latest first. -/
  saved : List (List Object)
  memo : Memo
deriving Repr

namespace Machine

def initial : Machine := ⟨[], [], .empty⟩

/-- The outcome of an instruction: the fault, or the state after it. -/
abbrev Outcome := Except EvaluationFault

def push (machine : Machine) (object : Object) : Machine :=
  { machine with stack := object :: machine.stack }

def pop (machine : Machine) : Outcome (Object × Machine) :=
  match machine.stack with
  | [] => .error .stackUnderflow
  | object :: below => .ok (object, { machine with stack := below })

/-- Takes the `count` topmost objects, which come out in the order in which they were pushed. -/
def popMany (machine : Machine) : Nat → Outcome (List Object × Machine)
  | 0 => .ok ([], machine)
  | count + 1 => do
      let (last, machine) ← machine.pop
      let (front, machine) ← machine.popMany count
      return (front ++ [last], machine)

/-- Takes the whole stack, in the order in which it was pushed, and restores the stack that was
saved last. -/
def popMark (machine : Machine) : Outcome (List Object × Machine) :=
  match machine.saved with
  | [] => .error .stackUnderflow
  | restored :: saved =>
      .ok (machine.stack.reverse, { machine with stack := restored, saved })

/-- The object behind a reference, which is thereby used once; any other object is itself. -/
def resolve? (machine : Machine) : Object → Option (Object × Machine)
  | .memoRef id =>
      (machine.memo.find? id).map fun entry =>
        let used := { entry with references := entry.references - 1 }
        (entry.object, { machine with memo := machine.memo.insert id used })
  | object => some (object, machine)

/-- Takes the top of the stack and the object behind it, if it is a reference. -/
def popResolved (machine : Machine) : Outcome (Object × Machine) := do
  let (top, machine) ← machine.pop
  match machine.resolve? top with
  | some resolved => return resolved
  | none => throw .stackUnderflow

/-- The fault when the object on top refers to nothing has its own form, since no instruction is
to blame. -/
inductive Failure where
  | evaluation (cause : EvaluationFault)
  | danglingTop (id : Nat)
deriving Repr

/-- The object on top, or the one that it refers to. -/
def top (machine : Machine) : Except Failure Object :=
  match machine.stack with
  | [] => .error (.evaluation .stackUnderflow)
  | .memoRef id :: _ =>
      match machine.memo.find? id with
      | some entry => .ok entry.object
      | none => .error (.danglingTop id)
  | object :: _ => .ok object

/-- Puts an object in the place of the one on top, or of the one that it refers to. -/
def replaceTop (machine : Machine) (object : Object) : Machine :=
  match machine.stack with
  | [] => machine
  | .memoRef id :: _ =>
      match machine.memo.find? id with
      | some entry => { machine with memo := machine.memo.insert id { entry with object } }
      | none => machine
  | _ :: below => { machine with stack := object :: below }

/-- Changes the object on top, or the one that it refers to, which must be of the `expected`
kind. -/
def changeTop (machine : Machine) (expected : String) (change : Object → Option Object) :
    Except Failure Machine := do
  let current ← machine.top
  match change current with
  | some changed => return machine.replaceTop changed
  | none => throw (.evaluation (.unexpectedTop expected current))

def extendList (items : List Object) : Object → Option Object
  | .list held => some (.list (held ++ items))
  | _ => none

def extendDict (entries : List (Object × Object)) : Object → Option Object
  | .dict held => some (.dict (held ++ entries))
  | _ => none

def extendSet (items : List Object) : Object → Option Object
  | .set held => some (.set (held ++ items))
  | _ => none

/-- Neighbours as keys and values; a key without a value is dropped. -/
def pairs : List Object → List (Object × Object)
  | key :: value :: rest => (key, value) :: pairs rest
  | _ => []

/-- Moves the top into the memo and leaves a reference, which is counted. A reference on top is
first replaced by what it refers to. -/
def store (machine : Machine) (id : Nat) : Outcome Machine := do
  let (top, machine) ← machine.pop
  let object ← match top with
    | .memoRef held =>
        match machine.memo.find? held with
        | some entry => pure entry.object
        | none => throw (.missingMemo held)
    | object => pure object
  return { machine with memo := machine.memo.insert id ⟨object, 1⟩ }.push (.memoRef id)

def refer (machine : Machine) (id : Nat) : Outcome Machine :=
  match machine.memo.find? id with
  | some entry =>
      let counted := { entry with references := entry.references + 1 }
      .ok ({ machine with memo := machine.memo.insert id counted }.push (.memoRef id))
  | none => .error (.missingMemo id)

def latinBytes (text : String) : Bytes :=
  text.toList.map fun character => UInt8.ofNat character.toNat

/-- The last argument of a call, or what it refers to, and the arguments before it. -/
def lastArgument? (machine : Machine) (arguments : List Object) :
    Option (Object × List Object × Machine) := do
  let last ← arguments.getLast?
  let (object, machine) ← machine.resolve? last
  return (object, arguments.dropLast, machine)

/-- Calls a function, which takes its last argument; the byte array takes its first. -/
def call (machine : Machine) (function : Function) (arguments : List Object) : Outcome Machine :=
  match function with
  | .set =>
      match machine.lastArgument? arguments with
      | some (.list items, _, machine) => .ok (machine.push (.set items))
      | _ => .error (.invalidArgument "set")
  | .frozenSet =>
      match machine.lastArgument? arguments with
      | some (.list items, _, machine) => .ok (machine.push (.frozenSet items))
      | _ => .error (.invalidArgument "frozenset")
  | .list =>
      match machine.lastArgument? arguments with
      | some (.list items, _, machine) => .ok (machine.push (.list items))
      | _ => .error (.invalidArgument "list")
  | .integer =>
      match machine.lastArgument? arguments with
      | some (.long number, _, machine) => .ok (machine.push (.long number))
      | _ => .error (.invalidArgument "int")
  | .byteArray =>
      match machine.lastArgument? (arguments.take 1) with
      | some (.bytes content, _, machine) => .ok (machine.push (.bytes content))
      | some (.text content, _, machine) => .ok (machine.push (.bytes (latinBytes content)))
      | _ => .error (.invalidArgument "bytearray")
  | .encode =>
      match machine.lastArgument? arguments with
      | some (.text _, before, machine) =>
          match machine.lastArgument? before with
          | some (.text content, _, machine) => .ok (machine.push (.bytes (latinBytes content)))
          | _ => .error (.invalidArgument "encode")
      | _ => .error (.invalidArgument "encode")
  | .reconstruct => .ok (machine.push (.dict []))
  | .other => .ok (machine.push (.function .other))

def reduce (machine : Machine) : Outcome Machine := do
  let (arguments, machine) ← machine.popResolved
  match arguments with
  | .tuple items =>
      let (callee, machine) ← machine.popResolved
      match callee with
      | .function function => machine.call function items
      | other => throw (.unexpectedTop "global reference" other)
  | other => throw (.unexpectedTop "tuple" other)

def popText (machine : Machine) : Outcome (String × Machine) := do
  let (object, machine) ← machine.popResolved
  match object with
  | .text content => return (content, machine)
  | other => throw (.unexpectedTop "string" other)

def collect (machine : Machine) (make : List Object → Object) : Outcome Machine := do
  let (items, machine) ← machine.popMark
  return machine.push (make items)

/-- Drops the top; where the current stack is empty, drops the mark. -/
def drop (machine : Machine) : Outcome Machine :=
  if machine.stack.isEmpty then machine.popMark.map (·.2) else machine.pop.map (·.2)

/-- The state after an instruction that touches only the stacks and the memo. -/
def execute (machine : Machine) : Instruction → Outcome Machine
  | .mark => .ok { machine with stack := [], saved := machine.stack :: machine.saved }
  | .pop => machine.drop
  | .popMark => machine.popMark.map (·.2)
  | .store id => machine.store id
  | .storeNext => machine.store machine.memo.size
  | .refer id => machine.refer id
  | .push object => .ok (machine.push object)
  | .tuple count => do
      let (items, machine) ← machine.popMany count
      return machine.push (.tuple items)
  | .tupleOfStack => machine.collect .tuple
  | .listOfStack => machine.collect .list
  | .dictOfStack => machine.collect fun items => .dict (pairs items)
  | .frozenSetOfStack => machine.collect .frozenSet
  | .functionOfStack => do
      let (name, machine) ← machine.popText
      let (module, machine) ← machine.popText
      return machine.push (.function (Function.ofName module name))
  | .reduce => machine.reduce
  | .instantiate marked operands => do
      let machine ← if marked then machine.popMark.map (·.2) else pure machine
      let (_, machine) ← machine.popMany operands
      return machine.push (.dict [])
  | .build => do
      let (state, machine) ← machine.pop
      let (_, machine) ← machine.pop
      return machine.push state
  | .ignore | .stop | .duplicate | .append | .appendStack | .insert | .insertStack | .addStack =>
      .ok machine

def evaluated {α : Type} : Outcome α → Except Failure α
  | .ok value => .ok value
  | .error cause => .error (.evaluation cause)

def step (machine : Machine) : Instruction → Except Failure Machine
  | .duplicate => do
      let object ← machine.top
      return machine.push object
  | .append => do
      let (item, machine) ← evaluated machine.pop
      machine.changeTop "list" (extendList [item])
  | .appendStack => do
      let (items, machine) ← evaluated machine.popMark
      machine.changeTop "list" (extendList items)
  | .insert => do
      let (value, machine) ← evaluated machine.pop
      let (key, machine) ← evaluated machine.pop
      machine.changeTop "dict" (extendDict [(key, value)])
  | .insertStack => do
      let (items, machine) ← evaluated machine.popMark
      machine.changeTop "dict" (extendDict (pairs items))
  | .addStack => do
      let (items, machine) ← evaluated machine.popMark
      machine.changeTop "set" (extendSet items)
  | instruction => evaluated (machine.execute instruction)

def Failure.fault (cursor : Cursor) : Failure → Fault
  | .evaluation cause => cursor.fault cause
  | .danglingTop id => .conversion (.missingMemo id)

/-- Runs instructions until the last one. Every instruction takes at least one byte, so a payload
of `fuel` bytes has no more than `fuel` of them, and one that is not stopped by then has ended. -/
def run : (fuel : Nat) → Machine → Cursor → Except Fault (Object × Memo)
  | 0, _, _ => .error .endOfInput
  | fuel + 1, machine, cursor => do
      let (instruction, cursor) ← Instruction.read cursor
      match instruction with
      | .stop =>
          match machine.pop with
          | .ok (object, machine) => return (object, machine.memo)
          | .error cause => throw (cursor.fault cause)
      | instruction =>
          match machine.step instruction with
          | .ok machine => run fuel machine cursor
          | .error failure => throw (failure.fault cursor)

/-- The object that a payload builds, and the memo that it may refer to. -/
def runPayload (payload : Bytes) : Except Fault (Object × Memo) :=
  run payload.length initial ⟨0, payload⟩

end Machine

end MetricIntake.Pickle
