/-!
Contract: cutting a sequence at separators.

Owns:
- the pieces between separators, empty ones included;
- the same without the empty ones;
- cutting once, at the first separator.

Does not own: what separates; lines are cut at blanks, keys at full stops, nodes at equals signs.
-/

namespace MetricIntake.Fields

/-- The pieces between separators. There is one more of them than separators. -/
def pieces {α : Type} (isSeparator : α → Bool) : List α → List (List α)
  | [] => [[]]
  | element :: rest =>
      if isSeparator element then [] :: pieces isSeparator rest
      else
        match pieces isSeparator rest with
        | [] => [[element]]
        | first :: others => (element :: first) :: others

def words {α : Type} (isSeparator : α → Bool) (elements : List α) : List (List α) :=
  (pieces isSeparator elements).filter fun piece => !piece.isEmpty

/-- What stands before and after the first separator, if there is one. -/
def cutOnce? {α : Type} (isSeparator : α → Bool) : List α → Option (List α × List α)
  | [] => none
  | element :: rest =>
      if isSeparator element then some ([], rest)
      else (cutOnce? isSeparator rest).map fun (before, after) => (element :: before, after)

end MetricIntake.Fields
