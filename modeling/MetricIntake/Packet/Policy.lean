import MetricIntake.Text.Fields
import MetricIntake.Text.Utf8

/-!
Contract: which metric keys are acceptable.

Owns:
- the three levels of strictness and their order;
- the rule for all keys at each level, on the bytes of the key;
- the rule for tagged keys at each level, on the nodes of the key.

Does not own: the fields of a line; a key arrives here as the text of the first field.
-/

namespace MetricIntake

/-- How much a naming rule demands. -/
inductive Strictness where
  | none
  | medium
  | strict
deriving DecidableEq, Repr, Inhabited

namespace Strictness

def rank : Strictness → Nat
  | .none => 0
  | .medium => 1
  | .strict => 2

def name : Strictness → String
  | .none => "none"
  | .medium => "medium"
  | .strict => "strict"

def title : Strictness → String
  | .none => "None"
  | .medium => "Medium"
  | .strict => "Strict"

def ofName? (name : String) : Option Strictness :=
  [Strictness.strict, .medium, .none].find? fun level => level.name == name

end Strictness

/-- The levels that a key is held to. -/
structure KeyPolicy where
  legacy : Strictness
  tagged : Strictness
deriving DecidableEq, Repr, Inhabited

/-- The tags that say what a metric measures. -/
inductive MetricTag where
  | unit
  | kind
deriving DecidableEq, Repr

def MetricTag.name : MetricTag → String
  | .unit => "unit"
  | .kind => "mtype"

/-- Why a key is refused. -/
inductive KeyFault where
  | emptyNode
  | invalidByte (byte : UInt8)
  | invalidTag (node : String)
  | missingTag (tag : MetricTag)
  | duplicateTag (tag : MetricTag)
deriving DecidableEq, Repr

namespace KeyPolicy

def isControl (byte : UInt8) : Bool :=
  byte.toNat < 0x20 || byte.toNat == 0x7F

/-- Visible bytes of ASCII, without the blank. -/
def isGraphic (byte : UInt8) : Bool :=
  0x21 ≤ byte.toNat && byte.toNat ≤ 0x7E

def nodes (key : String) : List (List Char) :=
  Fields.pieces (· == '.') key.toList

/-- The rule for all keys. Strict keys hold visible ASCII bytes only and no empty node, medium keys
no control bytes. The first forbidden byte is reported before an empty node. -/
def checkLegacy (level : Strictness) (key : String) : Except KeyFault Unit :=
  match level with
  | .none => .ok ()
  | .medium =>
      match (Utf8.encode key).find? isControl with
      | some byte => .error (.invalidByte byte)
      | none => .ok ()
  | .strict =>
      match (Utf8.encode key).find? (fun byte => !isGraphic byte) with
      | some byte => .error (.invalidByte byte)
      | none => if (nodes key).any (·.isEmpty) then .error .emptyNode else .ok ()

def isTagged (key : String) : Bool :=
  key.toList.contains '='

/-- The tag name of each node that is a tag with a value; any other node is passed over at the
medium level when it has no equals sign, and refused otherwise. -/
def tagNames (level : Strictness) : List (List Char) → Except KeyFault (List (List Char))
  | [] => .ok []
  | node :: rest =>
      match Fields.cutOnce? (· == '=') node with
      | none =>
          if level = .strict then .error (.invalidTag (String.ofList node))
          else tagNames level rest
      | some (tag, value) =>
          if tag.isEmpty || value.isEmpty then .error (.invalidTag (String.ofList node))
          else do
            let others ← tagNames level rest
            return tag :: others

/-- How often a tag may and must stand among the tags of a key. -/
def checkTag (level : Strictness) (names : List (List Char)) (tag : MetricTag) :
    Except KeyFault Unit :=
  let count := names.count tag.name.toList
  if 1 < count then .error (.duplicateTag tag)
  else if count = 0 ∧ level = .strict then .error (.missingTag tag)
  else .ok ()

/-- The rule for tagged keys: well-formed tags, none of the two metric tags twice and, for strict
keys, tags only and both metric tags. -/
def checkTagged (level : Strictness) (key : String) : Except KeyFault Unit :=
  if level = .none then .ok ()
  else do
    let names ← tagNames level (nodes key)
    checkTag level names .unit
    checkTag level names .kind

/-- Both rules; the one for tagged keys applies to keys that hold tags. -/
def check (policy : KeyPolicy) (key : String) : Except KeyFault Unit := do
  checkLegacy policy.legacy key
  if isTagged key then checkTagged policy.tagged key

end KeyPolicy

end MetricIntake
