import IdentSearch.Proofs.Match.Symmetry
import IdentSearch.Proofs.Session.Coherence

/-!
The words of a segment may be typed in any order. Once the segment is not found as a whole, its match is merged
from those of its words, and merging is symmetric.
-/

namespace IdentSearch

theorem Segment.outcome_of_perm {find : Bool → Chunk → Option Match} {x y : Segment}
    (hwords : x.words.Perm y.words) (hx : find false x.total = none) (hy : find false y.total = none)
    : x.outcome find = y.outcome find := by
  unfold outcome
  rw [hx, hy, Option.none_or, Option.none_or]
  exact Match.mapM_bind_mergeAll_perm hwords

namespace Session

def findChunk (fuzzy : Bool) (part : Piece) (stripped : Bool) (c : Chunk) (s : Session) : Option Match :=
  let a := Segment.attempt s.matcher.settings part.text part.start stripped c
  if fuzzy then a.fuzzily else (a.run (HumpCache.get .words) s.cache).1

def findSegment (fuzzy : Bool) (part : Piece) (x : Segment) (s : Session) : Option Match :=
  if fuzzy then x.fuzzily s.matcher.settings part.text part.start
  else (x.run (HumpCache.get .words) s.matcher.settings part.text part.start s.cache).1

variable {m : Matcher} {s : Session}

theorem IsOf.findChunk_eq (h : s.IsOf m) (fuzzy : Bool) (part : Piece) (stripped : Bool) (c : Chunk)
    : s.findChunk fuzzy part stripped c
        =
      if fuzzy then (Segment.attempt m.settings part.text part.start stripped c).fuzzily
      else (Segment.attempt m.settings part.text part.start stripped c).outcome := by
  have hrun := HumpCache.evaluation.run HumpCache.yields_get
    (Segment.attempt m.settings part.text part.start stripped c)
  unfold findChunk
  dsimp only
  rw [h.matcher_eq, (hrun s.cache h.coherent).1]

theorem IsOf.findSegment_eq (h : s.IsOf m) (fuzzy : Bool) (part : Piece) (x : Segment)
    : s.findSegment fuzzy part x = x.answer fuzzy m.settings part.text part.start := by
  have hrun := HumpCache.evaluation.segmentRun m.settings x part.start (HumpCache.yields_get part.text)
  unfold findSegment
  rw [h.matcher_eq, (hrun s.cache h.coherent).1, Segment.fuzzily_eq_answer]
  cases fuzzy with
  | true => rfl
  | false => rfl

theorem merging_unordered
    : (∀ m n : Match, m.merge n = n.merge m) ∧
        (∀ k m n : Match, (k.merge m).merge n = k.merge (m.merge n)) ∧
        (∀ (strategy : String) (ms : List Match),
          (MergeStrategy.ofName? strategy).isSome = true → 2 ≤ ms.length →
            ∃ r, (∀ others, ms.Perm others → Match.mergeAllBy strategy others = .ok (some r)) ∧
              Match.Combines ms r ∧ r.spans.IsNormal ∧
              (∀ i, r.spans.Covers i ↔ ∃ m ∈ ms, m.spans.Covers i) ∧
              ∀ m ∈ ms, ∀ ignoreCase, (r.compare ignoreCase m).isGE = true) ∧
        ∀ (m : Matcher) (steps steps' : List Step) (fuzzy : Bool) (part : Piece) (x y : Segment),
          let s := History.after step steps (start m)
          let s' := History.after step steps' (start m)
          x.words.Perm y.words → s.findChunk fuzzy part false x.total = none →
            s'.findChunk fuzzy part false y.total = none →
              s.findSegment fuzzy part x = s'.findSegment fuzzy part y := by
  refine ⟨Match.merge_comm, Match.merge_assoc, ?_, ?_⟩
  . intro strategy ms hstrategy hlength
    rcases Match.exists_combines hlength with ⟨r, hr, hcombines⟩
    refine ⟨r, ?_, hcombines, hcombines.isNormal, fun i => hcombines.covers_iff, ?_⟩
    . intro others hperm
      unfold Match.mergeAllBy
      rw [hstrategy, Bool.or_true, if_pos rfl, ← Match.mergeAll_perm hperm, hr]
    . intro m hm ignoreCase
      exact hcombines.compare_isGE hm ignoreCase
  . intro m steps steps' fuzzy part x y s s' hwords hx hy
    have hs := after_isOf m steps
    have hs' := after_isOf m steps'
    rw [hs.findChunk_eq] at hx
    rw [hs'.findChunk_eq] at hy
    rw [hs.findSegment_eq, hs'.findSegment_eq]
    exact Segment.outcome_of_perm hwords hx hy

-- Spans that overlap, touch and are empty, and `foo bar` against `bar-foo` in `BarFoo`.
theorem merging_unordered_fooBar
    : let ms : List Match := [⟨.substring, false, true, [⟨4, 2⟩, ⟨0, 3⟩, ⟨2, 3⟩]⟩,
        ⟨.beginning, true, false, [⟨9, 0⟩, ⟨6, 1⟩]⟩]
      let m := Matcher.simple ['f', 'o', 'o', ' ', 'b', 'a', 'r'] { includeSpans := true }
      let part : Piece := ⟨2, ['B', 'a', 'r', 'F', 'o', 'o']⟩
      let x : Segment := ⟨['f', 'o', 'o', ' ', 'b', 'a', 'r']⟩
      let y : Segment := ⟨['b', 'a', 'r', '-', 'f', 'o', 'o']⟩
      let s := History.after step [.tryMatch (some part.text)] (start m)
      x.words.Perm y.words ∧ s.findChunk false part false x.total = none ∧
        (start m).findChunk false part false y.total = none ∧
        s.findSegment false part x = (start m).findSegment false part y ∧
          Match.mergeAllBy "container" ms.reverse
            = .ok (some ⟨.substring, true, false, [⟨0, 7⟩]⟩) := by
  intro ms m part x y s
  rcases merging_unordered with ⟨_, _, hmerge, hwords⟩
  have hperm : x.words.Perm y.words := by decide
  have hx : s.findChunk false part false x.total = none := by decide +kernel
  have hy : (start m).findChunk false part false y.total = none := by decide +kernel
  rcases hmerge "container" ms rfl (Nat.le_refl 2) with ⟨r, hr, _⟩
  refine ⟨hperm, hx, hy, hwords m _ [] false part x y hperm hx hy, ?_⟩
  rw [hr ms.reverse (List.reverse_perm ms).symm, ← hr ms (List.Perm.refl ms)]
  rfl

end Session
end IdentSearch
