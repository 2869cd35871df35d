import MetricIntake.Text.Utf8
import MetricIntake.Pickle.Object

/-!
Contract: why a payload cannot be read.

Owns:
- the faults of reading and of evaluating instructions, which carry the number of bytes consumed;
- the faults of turning the finished object into a value;
- the one message of each.

Does not own: when a fault arises.
-/

namespace MetricIntake.Pickle

/-- Why an instruction fails. -/
inductive EvaluationFault where
  | unsupportedOpcode (opcode : UInt8)
  /-- The stack, or the saved stacks, hold too little. -/
  | stackUnderflow
  | missingMemo (id : Nat)
  | invalidLiteral (literal : Bytes)
  | notUtf8
  | negativeLength
  | unexpectedTop (expected : String) (found : Object)
  | invalidArgument (function : String)
deriving Repr

def EvaluationFault.message : EvaluationFault → String
  | .unsupportedOpcode opcode =>
      "unsupported opcode " ++ Escape.quoteChar (Char.ofNat opcode.toNat)
  | .stackUnderflow => "pickle stack underflow"
  | .missingMemo id => "missing memo with id " ++ Decimal.natText id
  | .invalidLiteral literal => "literal is invalid: " ++ Utf8.lossy literal
  | .notUtf8 => "string is not UTF-8 encoded"
  | .negativeLength => "negative length prefix"
  | .unexpectedTop expected found =>
      "invalid stack top, expected " ++ expected ++ ", got " ++ found.inspect
  | .invalidArgument function => "invalid value: " ++ function ++ "() arg"

/-- Why an object is no value. -/
inductive ConversionFault where
  | unresolvedFunction
  /-- A reference to what is being converted already, or was used up. -/
  | recursive
  | unhashable
  | missingMemo (id : Nat)
deriving DecidableEq, Repr

def ConversionFault.message : ConversionFault → String
  | .unresolvedFunction => "unresolved global reference"
  | .recursive => "recursive structure found"
  | .unhashable => "dict key or set item not hashable"
  | .missingMemo id => "missing memo with id " ++ Decimal.natText id

/-- Why a payload cannot be read. -/
inductive Fault where
  | endOfInput
  /-- An instruction failed after `offset` bytes had been consumed. -/
  | evaluation (offset : Nat) (cause : EvaluationFault)
  | conversion (cause : ConversionFault)
deriving Repr

end MetricIntake.Pickle
