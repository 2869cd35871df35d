import MetricIntake.Number.Decimal
import MetricIntake.Text.Escape

/-!
Contract: socket addresses as text.

Owns:
- addresses of both versions of the internet protocol, each with a port;
- reading them: no leading zeros in the parts of a version 4 address, abbreviations and embedded
  version 4 addresses in a version 6 address, an optional scope;
- writing them, version 6 addresses in lower case with their longest run of zeros left out.

Does not own: names of hosts, which are never looked up.
-/

namespace MetricIntake

/-- A socket address. -/
inductive Address where
  | v4 (octets : List Nat) (port : Nat)
  | v6 (groups : List Nat) (scope port : Nat)
deriving DecidableEq, Repr

namespace Address

def digitValue? (base : Nat) (character : Char) : Option Nat :=
  let code := character.toNat
  let value? :=
    if 48 ≤ code ∧ code ≤ 57 then some (code - 48)
    else if 97 ≤ code ∧ code ≤ 102 then some (code - 87)
    else if 65 ≤ code ∧ code ≤ 70 then some (code - 55)
    else none
  value?.filter (· < base)

/-- A form of numbers in addresses. -/
structure NumberForm where
  base : Nat
  mostDigits : Option Nat
  leadingZero : Bool
  greatest : Nat

def octetForm : NumberForm := ⟨10, some 3, false, 255⟩

def groupForm : NumberForm := ⟨16, some 4, true, 65535⟩

def portForm : NumberForm := ⟨10, none, true, 65535⟩

def scopeForm : NumberForm := ⟨10, none, true, 4294967295⟩

def number? (form : NumberForm) (input : List Char) : Option (Nat × List Char) :=
  let isDigit := fun character => (digitValue? form.base character).isSome
  let digits := input.takeWhile isDigit
  let value := digits.foldl
    (fun number character => form.base * number + (digitValue? form.base character).getD 0) 0
  let tooLong := form.mostDigits.any (· < digits.length)
  let spareZero := !form.leadingZero && digits.head? == some '0' && 1 < digits.length
  if digits.isEmpty || tooLong || spareZero || form.greatest < value then none
  else some (value, input.dropWhile isDigit)

/-- What follows a character that must stand here. -/
def character? (expected : Char) : List Char → Option (List Char)
  | first :: rest => if first = expected then some rest else none
  | [] => none

def octets? (input : List Char) : Option (List Nat × List Char) := do
  let (first, input) ← number? octetForm input
  let (second, input) ← number? octetForm (← character? '.' input)
  let (third, input) ← number? octetForm (← character? '.' input)
  let (fourth, input) ← number? octetForm (← character? '.' input)
  return ([first, second, third, fourth], input)

/-- The input behind the separator, which stands before every part but the first. -/
def afterSeparator? (isFirst : Bool) (input : List Char) : Option (List Char) :=
  if isFirst then some input else character? ':' input

/-- A version 4 address in the place of two parts. -/
def embedded? (isFirst : Bool) (input : List Char) : Option (List Nat × List Char) := do
  let (octets, input) ← octets? (← afterSeparator? isFirst input)
  match octets with
  | [first, second, third, fourth] => return ([256 * first + second, 256 * third + fourth], input)
  | _ => none

/-- At most `room` parts of a version 6 address, whether they end with a version 4 address, and what
follows them. -/
def groups : (room : Nat) → (isFirst : Bool) → List Char → List Nat × Bool × List Char
  | 0, _, input => ([], false, input)
  | room + 1, isFirst, input =>
      let embedded := if room = 0 then none else embedded? isFirst input
      match embedded with
      | some (parts, input) => (parts, true, input)
      | none =>
          match (afterSeparator? isFirst input).bind (number? groupForm) with
          | none => ([], false, input)
          | some (part, input) =>
              let (parts, endsEmbedded, input) := groups room false input
              (part :: parts, endsEmbedded, input)

/-- The eight parts of a version 6 address and what follows them. Two colons stand for the parts
that are missing, at least one. -/
def sixteenBytes? (input : List Char) : Option (List Nat × List Char) :=
  let (head, headEmbedded, input) := groups 8 true input
  if head.length = 8 then some (head, input)
  else if headEmbedded then none
  else do
    let input ← character? ':' (← character? ':' input)
    let (tail, _, input) := groups (7 - head.length) true input
    return (head ++ List.replicate (8 - head.length - tail.length) 0 ++ tail, input)

def port? (input : List Char) : Option (Nat × List Char) := do
  number? portForm (← character? ':' input)

def readV4? (input : List Char) : Option (Address × List Char) := do
  let (octets, input) ← octets? input
  let (port, input) ← port? input
  return (.v4 octets port, input)

/-- A scope after a percent sign; zero, and nothing read, where there is none. -/
def scope (input : List Char) : Nat × List Char :=
  ((character? '%' input).bind (number? scopeForm)).getD (0, input)

def readV6? (input : List Char) : Option (Address × List Char) := do
  let (parts, input) ← sixteenBytes? (← character? '[' input)
  let (scope, input) := scope input
  let (port, input) ← port? (← character? ']' input)
  return (.v6 parts scope port, input)

def ofText? (text : String) : Option Address :=
  let input := text.toList
  match (readV4? input).orElse fun _ => readV6? input with
  | some (address, []) => some address
  | _ => none

def separated (separator : Char) (spell : Nat → List Char) : List Nat → List Char
  | [] => []
  | [number] => spell number
  | number :: rest => spell number ++ separator :: separated separator spell rest

def zeroRun (parts : List Nat) : Nat :=
  (parts.takeWhile (· = 0)).length

/-- Where the longest run of zeros starts and how long it is; the first of equal runs. -/
def longestZeroRun (parts : List Nat) : Nat × Nat :=
  (List.range parts.length).foldl
    (fun best start =>
      let run := zeroRun (parts.drop start)
      if best.2 < run then (start, run) else best)
    (0, 0)

/-- The characters of the parts of a version 6 address. A mapped version 4 address is written as
such. -/
def groupChars (parts : List Nat) : List Char :=
  match parts with
  | [0, 0, 0, 0, 0, 0xFFFF, high, low] =>
      "::ffff:".toList ++
        separated '.' Decimal.natChars [high / 256, high % 256, low / 256, low % 256]
  | _ =>
      let (start, run) := longestZeroRun parts
      if 1 < run then
        separated ':' Escape.hexChars (parts.take start) ++ [':', ':'] ++
          separated ':' Escape.hexChars (parts.drop (start + run))
      else separated ':' Escape.hexChars parts

def text : Address → String
  | .v4 octets port =>
      String.ofList (separated '.' Decimal.natChars octets ++ ':' :: Decimal.natChars port)
  | .v6 parts scope port =>
      let scopeChars := if scope = 0 then [] else '%' :: Decimal.natChars scope
      String.ofList ('[' :: groupChars parts ++ scopeChars ++ [']', ':'] ++ Decimal.natChars port)

end Address

end MetricIntake
