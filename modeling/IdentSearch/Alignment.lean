import IdentSearch.Kind
import IdentSearch.Text.Fold
import IdentSearch.Hump

/-!
Alignments of a pattern with the humps of a candidate: which humps were used, and the kind of match
that follows from it.
-/

namespace IdentSearch

def Kind.ofShape (fromStart contiguous toEnd : Bool) : Kind :=
  match contiguous, fromStart with
  | true, true => if toEnd then .camelExact else .camelContiguousFromStart
  | true, false => if toEnd then .camelContiguous else .camelSubstring
  | false, true => .camelNonContiguousFromStart
  | false, false => .camelNonContiguous

structure Alignment where
  fromStart : Bool
  contiguous : Bool
  toEnd : Bool
  spans : Spans
deriving DecidableEq, Repr

namespace Alignment

def kind (a : Alignment) : Kind := Kind.ofShape a.fromStart a.contiguous a.toEnd

def shift (offset : Nat) (a : Alignment) : Alignment :=
  ⟨a.fromStart, a.contiguous, a.toEnd, Spans.normalize (a.spans.map (·.shift offset))⟩

def move (distance : Int) (a : Alignment) : Except Span.Error Alignment := do
  let spans ← a.spans.mapM (·.move distance)
  return ⟨a.fromStart, a.contiguous, a.toEnd, Spans.normalize spans⟩

-- To be moved by the position of a part is to be shifted by it, and cannot fail.
theorem move_natCast (n : Nat) (a : Alignment) : a.move n = .ok (a.shift n) := by
  rw [move, Spans.mapM_move_natCast]
  rfl

end Alignment

def Folding.partStartsWith (f : Folding) (ignoreCase : Bool)
    (candidate : Text) (candidatePart : Span) (pattern : Text) (patternPart : Span) : Bool :=
  decide (patternPart.length ≤ candidatePart.length) &&
    f.regionEquals ignoreCase candidate candidatePart.start pattern patternPart.start
      patternPart.length

end IdentSearch
