import MetricIntake.Number.Literal
import MetricIntake.Pickle.Encoding

/-!
Contract: the values that survive a payload, and the form in which they do.

Owns:
- the values that have an equal on the other side: no sets, byte strings that spell text, and
  dictionaries with distinct texts for keys;
- that equal: byte strings as the text they spell, integers in the least kind that holds them, and
  dictionaries in the order of their keys.

Does not own: the limits of lengths, which are those of `Pickle.Encoding`, nor any instruction. The
two functions look at values alone.
-/

namespace MetricIntake.Pickle.Canonical

def keyText? : Value → Option String
  | .text content => some content
  | _ => none

def distinctTexts (entries : List (Value × Value)) : Bool :=
  entries.all (fun entry => (keyText? entry.1).isSome) &&
    decide (entries.map fun entry => keyText? entry.1).Nodup

mutual

def survives : Value → Bool
  | .bytes content => (Utf8.decode? content).isSome
  | .list items => allSurvive items
  | .tuple items => allSurvive items
  | .dict entries => distinctTexts entries && entriesSurvive entries
  | .set _ => false
  | _ => true

def allSurvive : List Value → Bool
  | [] => true
  | item :: rest => survives item && allSurvive rest

def entriesSurvive : List (Value × Value) → Bool
  | [] => true
  | (_, value) :: rest => survives value && entriesSurvive rest

end

/-- An integer in the least kind that holds it: 64 bits with a sign, or any size. -/
def leastInteger (number : Int) : Value :=
  if -9223372036854775808 ≤ number ∧ number ≤ 9223372036854775807 then
    .signed (Int64.ofInt number)
  else .bigInteger number

def entryLe (left right : Value × Value) : Bool :=
  match keyText? left.1, keyText? right.1 with
  | some leftText, some rightText => decide (¬ rightText < leftText)
  | _, _ => true

mutual

def canonical : Value → Value
  | .bytes content =>
      match Utf8.decode? content with
      | some text => .text text
      | none => .bytes content
  | .unsigned number => leastInteger number.toNat
  | .bigInteger number => leastInteger number
  | .list items => .list (canonicalAll items)
  | .tuple items => .tuple (canonicalAll items)
  | .dict entries => .dict ((canonicalEntries entries).mergeSort entryLe)
  | other => other

def canonicalAll : List Value → List Value
  | [] => []
  | item :: rest => canonical item :: canonicalAll rest

def canonicalEntries : List (Value × Value) → List (Value × Value)
  | [] => []
  | (key, value) :: rest => (key, canonical value) :: canonicalEntries rest

end

end MetricIntake.Pickle.Canonical
