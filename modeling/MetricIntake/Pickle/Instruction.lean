import MetricIntake.Number.Literal
import MetricIntake.Pickle.Cursor
import MetricIntake.Pickle.StringLiteral

/-!
Contract: the instructions of a payload and how their bytes are read.

Owns:
- the instructions, with their arguments read and checked;
- the opcode of each and the form of its arguments.

Does not own: what an instruction does; `Pickle.Machine` does.
-/

namespace MetricIntake.Pickle

/-- One instruction of a payload. -/
inductive Instruction where
  /-- A header without effect. -/
  | ignore
  /-- The top of the stack is the result. -/
  | stop
  /-- Saves the stack and starts an empty one. -/
  | mark
  /-- Drops the top, or a whole empty stack. -/
  | pop
  /-- Drops the whole stack. -/
  | popMark
  /-- Pushes the top once more. -/
  | duplicate
  /-- Moves the top into the memo under a number and leaves a reference. -/
  | store (id : Nat)
  /-- Moves the top into the memo under the next number and leaves a reference. -/
  | storeNext
  /-- Pushes a reference to the memo. -/
  | refer (id : Nat)
  /-- Pushes an object. -/
  | push (object : Object)
  /-- Makes a tuple of the topmost objects. -/
  | tuple (count : Nat)
  /-- Makes a tuple of the whole stack. -/
  | tupleOfStack
  /-- Makes a list of the whole stack. -/
  | listOfStack
  /-- Makes a dictionary of the whole stack. -/
  | dictOfStack
  /-- Makes a frozen set of the whole stack. -/
  | frozenSetOfStack
  /-- Appends the top to the list below. -/
  | append
  /-- Appends the whole stack to the list below. -/
  | appendStack
  /-- Puts the topmost key and value into the dictionary below. -/
  | insert
  /-- Puts the keys and values of the whole stack into the dictionary below. -/
  | insertStack
  /-- Adds the whole stack to the set below. -/
  | addStack
  /-- Pushes the function of the module and name on the stack. -/
  | functionOfStack
  /-- Calls a function with a tuple of arguments. -/
  | reduce
  /-- Drops the whole stack if `marked`, then `operands` objects, and pushes an empty dictionary
  in the place of an instance. -/
  | instantiate (marked : Bool) (operands : Nat)
  /-- Puts the state in the place of its object. -/
  | build
deriving Repr

namespace Instruction

def greatestMemoId : Nat := 4294967295

def parsed {α : Type} (parse : Bytes → Option α) (cursor : Cursor) :
    Except Fault (α × Cursor) :=
  let (line, cursor) := cursor.line
  match parse line with
  | some value => .ok (value, cursor)
  | none => .error (cursor.fault (.invalidLiteral line))

/-- The object of an integer line; two spellings are truth values. -/
def intObject? (line : Bytes) : Option Object :=
  if line = [48, 48] then some (.bool false)
  else if line = [48, 49] then some (.bool true)
  else (Literal.int64? line).map .int

/-- Removes one `L` from the end. -/
def dropLongSuffix (line : Bytes) : Bytes :=
  if line.getLast? = some 0x4C then line.dropLast else line

def longLine (cursor : Cursor) : Except Fault (Object × Cursor) :=
  let (line, cursor) := cursor.line
  let digits := dropLongSuffix line
  match Literal.integer? digits with
  | some number => .ok (.long number, cursor)
  | none => .error (cursor.fault (.invalidLiteral digits))

def textObject (content : Bytes) (cursor : Cursor) : Except Fault (Object × Cursor) :=
  match Utf8.decode? content with
  | some text => .ok (.text text, cursor)
  | none => .error (cursor.fault .notUtf8)

def stringLine (cursor : Cursor) : Except Fault (Object × Cursor) :=
  let (line, cursor) := cursor.line
  let literal := StringLiteral.unquote line
  match StringLiteral.bytes? literal with
  | some content => textObject content cursor
  | none => .error (cursor.fault (.invalidLiteral literal))

def unicodeObject? (line : Bytes) : Option Object :=
  (StringLiteral.characters? line).map fun characters => .text (String.ofList characters)

def countedText (width : Nat) (cursor : Cursor) : Except Fault (Object × Cursor) := do
  let (content, cursor) ← cursor.counted width
  textObject content cursor

def countedBytes (width : Nat) (cursor : Cursor) : Except Fault (Object × Cursor) := do
  let (content, cursor) ← cursor.counted width
  return (.bytes content, cursor)

def functionLines (cursor : Cursor) : Function × Cursor :=
  let (module, cursor) := cursor.line
  let (name, cursor) := cursor.line
  (Function.ofName (Utf8.lossy module) (Utf8.lossy name), cursor)

def pushed (read : Except Fault (Object × Cursor)) : Except Fault (Instruction × Cursor) := do
  let (object, cursor) ← read
  return (push object, cursor)

def withId (make : Nat → Instruction) (read : Except Fault (Nat × Cursor)) :
    Except Fault (Instruction × Cursor) := do
  let (id, cursor) ← read
  return (make id, cursor)

/-- An instruction without effect after `count` bytes. -/
def skipped (count : Nat) (cursor : Cursor) : Except Fault (Instruction × Cursor) := do
  let (_, cursor) ← cursor.take count
  return (ignore, cursor)

def int32Object (cursor : Cursor) : Except Fault (Object × Cursor) := do
  let (number, cursor) ← cursor.signedNumber 4
  return (.int (Int64.ofInt number), cursor)

def smallObject (width : Nat) (cursor : Cursor) : Except Fault (Object × Cursor) := do
  let (number, cursor) ← cursor.number width
  return (.int (Int64.ofNat number), cursor)

/-- A floating-point number of eight bytes, the only number written most significant byte
first. -/
def floatObject (cursor : Cursor) : Except Fault (Object × Cursor) := do
  let (bytes, cursor) ← cursor.take 8
  return (.float ⟨UInt64.ofNat (Bytes.ofBigEndian bytes)⟩, cursor)

def longObject (read : Except Fault (Bytes × Cursor)) : Except Fault (Object × Cursor) := do
  let (bytes, cursor) ← read
  return (.long (Bytes.ofTwosComplement bytes), cursor)

/-- Reads the arguments of an opcode; the cursor stands behind the opcode. -/
def readArguments (opcode : UInt8) (cursor : Cursor) : Except Fault (Instruction × Cursor) :=
  match opcode.toNat with
  | 0x80 => skipped 1 cursor
  | 0x95 => skipped 8 cursor
  | 0x2E => .ok (stop, cursor)
  | 0x28 => .ok (mark, cursor)
  | 0x30 => .ok (pop, cursor)
  | 0x31 => .ok (popMark, cursor)
  | 0x32 => .ok (duplicate, cursor)
  | 0x70 => withId store (parsed (Literal.natural? greatestMemoId) cursor)
  | 0x71 => withId store (cursor.number 1)
  | 0x72 => withId store (cursor.number 4)
  | 0x94 => .ok (storeNext, cursor)
  | 0x67 => withId refer (parsed (Literal.natural? greatestMemoId) cursor)
  | 0x68 => withId refer (cursor.number 1)
  | 0x6A => withId refer (cursor.number 4)
  | 0x4E => .ok (push .null, cursor)
  | 0x88 => .ok (push (.bool true), cursor)
  | 0x89 => .ok (push (.bool false), cursor)
  | 0x29 => .ok (push (.tuple []), cursor)
  | 0x5D => .ok (push (.list []), cursor)
  | 0x7D => .ok (push (.dict []), cursor)
  | 0x8F => .ok (push (.set []), cursor)
  | 0x49 => pushed (parsed intObject? cursor)
  | 0x4C => pushed (longLine cursor)
  | 0x46 => pushed (parsed (fun line => (Literal.binary64? line).map .float) cursor)
  | 0x4A => pushed (int32Object cursor)
  | 0x4B => pushed (smallObject 1 cursor)
  | 0x4D => pushed (smallObject 2 cursor)
  | 0x47 => pushed (floatObject cursor)
  | 0x8A => pushed (longObject (cursor.counted 1))
  | 0x8B => pushed (longObject cursor.signedCounted)
  | 0x53 => pushed (stringLine cursor)
  | 0x56 => pushed (parsed unicodeObject? cursor)
  | 0x55 => pushed (countedText 1 cursor)
  | 0x8C => pushed (countedText 1 cursor)
  | 0x54 => do
      let (content, cursor) ← cursor.signedCounted
      pushed (textObject content cursor)
  | 0x58 => pushed (countedText 4 cursor)
  | 0x8D => pushed (countedText 8 cursor)
  | 0x43 => pushed (countedBytes 1 cursor)
  | 0x42 => pushed (countedBytes 4 cursor)
  | 0x8E => pushed (countedBytes 8 cursor)
  | 0x96 => pushed (countedBytes 8 cursor)
  | 0x85 => .ok (tuple 1, cursor)
  | 0x86 => .ok (tuple 2, cursor)
  | 0x87 => .ok (tuple 3, cursor)
  | 0x74 => .ok (tupleOfStack, cursor)
  | 0x6C => .ok (listOfStack, cursor)
  | 0x64 => .ok (dictOfStack, cursor)
  | 0x91 => .ok (frozenSetOfStack, cursor)
  | 0x61 => .ok (append, cursor)
  | 0x65 => .ok (appendStack, cursor)
  | 0x73 => .ok (insert, cursor)
  | 0x75 => .ok (insertStack, cursor)
  | 0x90 => .ok (addStack, cursor)
  | 0x63 =>
      let (function, cursor) := functionLines cursor
      .ok (push (.function function), cursor)
  | 0x93 => .ok (functionOfStack, cursor)
  | 0x52 => .ok (reduce, cursor)
  | 0x69 =>
      let (_, cursor) := functionLines cursor
      .ok (instantiate true 0, cursor)
  | 0x6F => .ok (instantiate true 1, cursor)
  | 0x81 => .ok (instantiate false 2, cursor)
  | 0x92 => .ok (instantiate false 3, cursor)
  | 0x62 => .ok (build, cursor)
  | _ => .error (cursor.fault (.unsupportedOpcode opcode))

def read (cursor : Cursor) : Except Fault (Instruction × Cursor) :=
  match cursor.rest with
  | [] => .error .endOfInput
  | opcode :: rest => readArguments opcode ⟨cursor.offset + 1, rest⟩

end Instruction

end MetricIntake.Pickle
