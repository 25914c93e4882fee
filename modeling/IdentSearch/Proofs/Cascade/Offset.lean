import IdentSearch.Proofs.Cascade.Restating

/-!
Where a part of a candidate starts has no influence on whether and how it matches. It only moves the spans.
-/

namespace IdentSearch

theorem Attempt.restates_shift (settings : Settings) (candidate : Text) (offset : Nat) (stripped : Bool)
    (c : Chunk)
    : Restates (·.shift offset) (Segment.attempt settings candidate 0 stripped c)
        (Segment.attempt settings candidate offset stripped c) := by
  constructor
  . rfl
  . rfl
  . rfl
  . rfl
  . rfl
  . intro kind caseSensitive spans
    unfold found Match.shift Match.withSpans
    cases hspans : settings.includeSpans <;> simp [Segment.attempt, hspans]
  . rfl

theorem Segment.answer_eq_shift (fuzzy : Bool) (settings : Settings) (s : Segment) (candidate : Text)
    (offset : Nat)
    : s.answer fuzzy settings candidate offset
        =
      (s.answer fuzzy settings candidate 0).map (·.shift offset) := by
  apply answer_map (Match.merge_shift offset)
  intro stripped c
  exact Attempt.restates_shift settings candidate offset stripped c

end IdentSearch
