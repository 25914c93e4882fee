import IdentSearch.Proofs.Session.Coherence
import IdentSearch.Proofs.Matcher.Containers
import IdentSearch.Proofs.Text.Splitting

/-!
Outer containers make no difference. Once a candidate has a part for every segment, whatever stands in front of
it behind a separator is left of all segments, so that the match only moves.
-/

namespace IdentSearch

theorem Match.shift_shift (m n : Nat) (r : Match) : (r.shift m).shift n = r.shift (m + n) := by
  simp [Match.shift, Match.withSpans, Span.shift, Nat.add_assoc]

namespace Matcher

variable {segments : List Segment} {separators : CharSet} {parts : List Piece} {m : Matcher}

theorem rightAligned_append (h : segments.length ≤ parts.length) (outer : List Piece) (n : Nat)
    : rightAligned segments (outer ++ parts.map (·.shift n))
        =
      (rightAligned segments parts).map fun l => (l.1, l.2.shift n) := by
  have hdrop : outer.length + parts.length - segments.length
      = outer.length + (parts.length - segments.length) := by omega
  unfold rightAligned
  rw [List.length_append, List.length_map, hdrop, List.drop_append, List.drop_eq_nil_of_le (by omega)]
  rw [Nat.add_sub_cancel_left, List.nil_append, ← List.map_drop, List.zip_map_right]
  rfl

theorem answerAt_shift (fuzzy : Bool) (l : Segment × Piece) (n : Nat)
    : m.answerAt fuzzy (l.1, l.2.shift n) = (m.answerAt fuzzy l).map (·.shift n) := by
  rw [answerAt_eq, answerAt_eq, Option.map_map]
  congr 1
  funext r
  exact (Match.shift_shift l.2.start n r).symm

variable (hstrategy : m.strategy = .containers segments separators)
variable {candidate : Text} {separator : Char}
variable (hle : segments.length ≤ (candidate.splitNonempty separators.contains).length)
variable (hseparator : separators.contains separator = true) (outer : Text)
include hstrategy hle hseparator

theorem answer_nested (fuzzy : Bool)
    : m.answer fuzzy (outer ++ separator :: candidate)
        =
      (m.answer fuzzy candidate).map (·.shift (outer.length + 1)) := by
  have hparts := Text.splitNonempty_append_cons hseparator outer candidate
  have hmoved : (m.answerAt fuzzy ∘ fun l => (l.1, l.2.shift (outer.length + 1)))
      = fun l => (m.answerAt fuzzy l).map (·.shift (outer.length + 1)) := by
    funext l
    exact answerAt_shift fuzzy l _
  rw [answer_containers hstrategy hparts, answer_containers hstrategy rfl hle, rightAligned_append hle]
  . rw [← List.map_reverse, List.mapM_map, hmoved, mapM_map_right, Option.map_bind, Option.bind_map]
    congr 1
    funext ms
    exact Match.mergeAll_map (Match.merge_shift _) ms
  . rw [List.length_append, List.length_map]
    omega

theorem outcome_nested (hblank : candidate.isBlank = false)
    : m.outcome (some (outer ++ separator :: candidate))
        =
      (m.outcome (some candidate)).map (·.shift (outer.length + 1)) := by
  have hnested : (outer ++ separator :: candidate).isBlank = false := by
    rw [Text.isBlank] at hblank ⊢
    simp [hblank]
  unfold outcome
  dsimp only
  rw [hblank, hnested]
  split
  . rfl
  . rw [answer_nested hstrategy hle hseparator, answer_nested hstrategy hle hseparator, Option.map_or]
    split
    . rfl
    . rfl

end Matcher

namespace Session

theorem tryMatch_nested {m : Matcher} {segments : List Segment} {separators : CharSet}
    (hstrategy : m.strategy = .containers segments separators) {steps steps' : List Step}
    (hopen : (History.after step steps (start m)).disposed = false)
    (hopen' : (History.after step steps' (start m)).disposed = false)
    {candidate : Text} (hblank : candidate.isBlank = false) {parts : List Piece}
    (hparts : Text.CutsInto separators.contains candidate parts) (hle : segments.length ≤ parts.length)
    (outer : Text) {separator : Char} (hseparator : separator ∈ separators)
    : ∃ answer,
        ((History.after step steps (start m)).tryMatch (some candidate)).1 = .ok answer ∧
          ((History.after step steps' (start m)).tryMatch (some (outer ++ separator :: candidate))).1
            = .ok (answer.map (·.shift (outer.length + 1))) := by
  have hsplit := hparts.eq_splitNonempty
  have hcontains : separators.contains separator = true := List.contains_iff_mem.mpr hseparator
  refine ⟨m.outcome (some candidate), ?_, ?_⟩
  . exact (after_isOf m steps).tryMatch_eq hopen _
  . rw [(after_isOf m steps').tryMatch_eq hopen', Matcher.outcome_nested hstrategy _ hcontains outer hblank]
    rw [hsplit]
    exact hle

-- Outer parts that would match as well are left alone.
theorem tryMatch_nested_ax_cs
    : let candidate : Text := ['A', 'x', '.', '.', 'C', 'o', 'S', 'p']
      let outer : Text := ['.', 'a', 'x', '.', 'C', 's', '.']
      let m := Matcher.containers [[' ', 'a', 'x'], ['c', 's']] (.ofList ['.']) { includeSpans := true }
      let s := History.after step [.tryMatch (some outer), .enter] (start m)
      s.disposed = false ∧
        ((start m).tryMatch (some candidate)).1
            = .ok (some ⟨.camelExact, false, false, [⟨0, 2⟩, ⟨4, 1⟩, ⟨6, 1⟩]⟩) ∧
          (s.tryMatch (some (outer ++ '.' :: candidate))).1
            = .ok (some ⟨.camelExact, false, false, [⟨8, 2⟩, ⟨12, 1⟩, ⟨14, 1⟩]⟩) := by
  intro candidate outer m s
  have hopen : s.disposed = false := by
    decide +kernel
  have hcandidate : ((start m).tryMatch (some candidate)).1
      = .ok (some ⟨.camelExact, false, false, [⟨0, 2⟩, ⟨4, 1⟩, ⟨6, 1⟩]⟩) := by
    decide +kernel
  rcases @tryMatch_nested m _ _ rfl [] [.tryMatch (some outer), .enter] rfl hopen candidate (by decide) _
    (Text.splitNonempty_cutsInto _ _) (by decide) outer '.' (List.mem_singleton_self '.')
    with ⟨answer, hanswer, hnested⟩
  cases hcandidate.symm.trans hanswer
  exact ⟨hopen, hcandidate, hnested⟩

end Session
end IdentSearch
