import IdentSearch.Text.Fold

/-!
Similarity of a pattern and a misspelt candidate. Their distance is the least number of insertions,
deletions, substitutions and swaps of neighbours that lead from one to the other, no place being
edited twice (the optimal string alignment distance).
-/

namespace IdentSearch

abbrev DistanceRow := List Nat

namespace DistanceRow

/--
The distance that ends in a character of each text, from the distances without one or both of them and,
if the last two characters of the texts are swapped, the distance without all four.
-/
def cell (same : Bool) (diagonal above left : Nat) (swapped : Option Nat) : Nat :=
  let edited := min (if same then diagonal else diagonal + 1) (min above left + 1)
  match swapped with
  | some n => min edited (n + 1)
  | none => edited

/--
The row below `oneUp` and `twoUp`, without its first distance. `c` and `previous` are the last two
characters of the first text. The rest of the second text is gone through; `before` is its character
to the left, `left` the distance there, `oneUp` starts in that column and `twoUp` one further left.
-/
def below (c : Char) (previous : Option Char)
    : Nat → Option Char → DistanceRow → DistanceRow → Text → DistanceRow
  | left, before, twoUp, diagonal :: above :: oneUp, d :: ds =>
    let swapped := if some c = before ∧ previous = some d then twoUp.head? else none
    let here := cell (c == d) diagonal above left swapped
    here :: below c previous here (some d)
      (if before.isSome then twoUp.tail else twoUp) (above :: oneUp) ds
  | _, _, _, _, _ => []

end DistanceRow

def alignmentDistance (t u : Text) : Nat :=
  go none [] (List.range (u.length + 1)) 1 t
where
  go (previous : Option Char) (twoUp oneUp : DistanceRow) (i : Nat) : Text → Nat
    | [] => oneUp.getLastD 0
    | c :: cs =>
      go (some c) oneUp (i :: DistanceRow.below c previous i none twoUp oneUp u) (i + 1) cs

structure Similarity where
  folding : Folding
  pattern : Text

namespace Similarity

def minLength : Nat := 3

def threshold (s : Similarity) : Nat := if s.pattern.length ≤ 4 then 1 else 2

/-- The distance to a candidate; all distances above the threshold count as one more than it. -/
def distance (s : Similarity) (candidate : Text) : Nat :=
  min (alignmentDistance (s.folding.fold s.pattern) (s.folding.fold candidate))
    (s.threshold + 1)

def lengthsDiffer (s : Similarity) (candidate : Text) : Bool :=
  decide (s.pattern.length + s.threshold < candidate.length) ||
    decide (candidate.length + s.threshold < s.pattern.length)

def accepts (s : Similarity) (candidate : Text) : Bool :=
  if s.pattern.length < minLength || candidate.isEmpty || s.lengthsDiffer candidate then false
  else decide (s.distance candidate ≤ s.threshold)

end Similarity
end IdentSearch
