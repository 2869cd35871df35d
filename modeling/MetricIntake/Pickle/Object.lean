import MetricIntake.Number.Shortest
import MetricIntake.Text.Escape

/-!
Contract: the objects that a payload builds while it is read.

Owns:
- objects, which may still refer to the memo or to named functions;
- the function that a module and a name stand for;
- the diagnostic text of an object.

Does not own: how objects are built or turned into values.
-/

namespace MetricIntake.Pickle

/-- What a module and a name refer to, as far as calls of it are understood. -/
inductive Function where
  | set
  | frozenSet
  | list
  | byteArray
  | integer
  | encode
  | reconstruct
  | other
deriving DecidableEq, Repr

def builtinModules : List String := ["__builtin__", "builtins"]

def registryModules : List String := ["copy_reg", "copyreg"]

def Function.ofName (module name : String) : Function :=
  if module = "_codecs" ∧ name = "encode" then .encode
  else if module ∈ registryModules ∧ name = "_reconstructor" then .reconstruct
  else if module ∈ builtinModules then
    if name = "set" then .set
    else if name = "frozenset" then .frozenSet
    else if name = "list" then .list
    else if name = "bytearray" then .byteArray
    else if name = "int" then .integer
    else .other
  else .other

/-- An object under construction. -/
inductive Object where
  | null
  | bool (truth : Bool)
  | int (number : Int64)
  | long (number : Int)
  | float (number : Binary64)
  | bytes (content : Bytes)
  | text (content : String)
  | list (items : List Object)
  | tuple (items : List Object)
  | set (items : List Object)
  | frozenSet (items : List Object)
  /-- Keys and values in the order in which they were put in. -/
  | dict (entries : List (Object × Object))
  | function (called : Function)
  | memoRef (id : Nat)
deriving Inhabited, Repr

namespace Object

def functionName : Function → String
  | .set => "Set"
  | .frozenSet => "Frozenset"
  | .list => "List"
  | .byteArray => "Bytearray"
  | .integer => "Int"
  | .encode => "Encode"
  | .reconstruct => "Reconst"
  | .other => "Other"

def applied (constructor argument : String) : String :=
  constructor ++ "(" ++ argument ++ ")"

def bracketed (items : List String) : String :=
  "[" ++ String.intercalate ", " items ++ "]"

mutual

def inspect : Object → String
  | .null => "None"
  | .bool truth => applied "Bool" (if truth then "true" else "false")
  | .int number => applied "I64" (Decimal.intText number.toInt)
  | .long number => applied "Int" (Decimal.intText number)
  | .float number => applied "F64" (Shortest.text number)
  | .bytes content =>
      applied "Bytes" (bracketed (content.map fun byte => Decimal.natText byte.toNat))
  | .text content => applied "String" (Escape.quoteText content)
  | .list items => applied "List" (bracketed (inspectAll items))
  | .tuple items => applied "Tuple" (bracketed (inspectAll items))
  | .set items => applied "Set" (bracketed (inspectAll items))
  | .frozenSet items => applied "FrozenSet" (bracketed (inspectAll items))
  | .dict entries => applied "Dict" (bracketed (inspectEntries entries))
  | .function called => applied "Global" (functionName called)
  | .memoRef id => applied "MemoRef" (Decimal.natText id)

def inspectAll : List Object → List String
  | [] => []
  | item :: rest => inspect item :: inspectAll rest

def inspectEntries : List (Object × Object) → List String
  | [] => []
  | (key, value) :: rest =>
      ("(" ++ inspect key ++ ", " ++ inspect value ++ ")") :: inspectEntries rest

end

end Object

end MetricIntake.Pickle
