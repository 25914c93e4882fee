import IdentSearch.Proofs.Cascade.Restating
import IdentSearch.Proofs.Matcher.Containers

/-!
Marking the matched positions of candidates. It changes nothing else about a match, and whatever was found by
the rules has positions to mark, all of them inside the candidate.
-/

namespace IdentSearch

structure Match.Marks (t : Text) (r : Match) : Prop where
  nonempty : r.spans ≠ []
  normal : r.spans.IsNormal
  inside : ∀ s ∈ r.spans, s.stop ≤ t.length

namespace Matcher

def marking (spans : Bool) (m : Matcher) : Matcher :=
  { m with settings := { m.settings with includeSpans := spans } }

theorem outcome_marking (m : Matcher) (candidate : Option Text)
    : (m.marking false).outcome candidate
        =
      ((m.marking true).outcome candidate).map (·.withSpans []) := by
  have hmerge : ∀ r s : Match, (r.withSpans []).merge (s.withSpans []) = (r.merge s).withSpans [] := by
    intro r s
    rfl
  apply outcome_map hmerge
  . rfl
  . rfl
  . intro t offset stripped c
    constructor
    all_goals
      intros
      rfl

end Matcher

/-! ### What is marked -/

theorem Attempt.Truthful.exists_covers {a : Attempt} {r : Match} (h : a.Truthful r)
    : ∃ i, r.spans.Covers i := by
  have hne := h.nonempty
  have hnormal := h.normal
  cases hspans : r.spans with
  | nil => exact absurd hspans hne
  | cons s ss =>
    rw [hspans] at hnormal
    exact ⟨s.start, hnormal.covers_start⟩

theorem Match.exists_covers_merge (r m : Match) (hr : ∃ i, r.spans.Covers i) (_ : ∃ i, m.spans.Covers i)
    : ∃ i, (r.merge m).spans.Covers i := by
  rcases hr with ⟨i, hi⟩
  exact ⟨i, covers_merge.mpr (.inl hi)⟩

theorem Segment.exists_covers {settings : Settings} {s : Segment} {candidate : Text} {offset : Nat} {r : Match}
    (hspans : settings.includeSpans = true) (hs : s.text ≠ [])
    (h : s.answer false settings candidate offset = some r) : ∃ i, r.spans.Covers i := by
  unfold answer outcome at h
  rcases Option.or_eq_some_iff.mp h with htotal | ⟨_, hwords⟩
  . exact ((Attempt.outcome_reports hs htotal).truthful hspans).exists_covers
  . apply of_mapM_bind_mergeAll Match.exists_covers_merge _ hwords
    intro c hc m hm
    rcases List.mem_map.mp hc with ⟨p, hp, rfl⟩
    exact ((Attempt.outcome_reports (Text.text_ne_nil_of_mem_words hp) hm).truthful hspans).exists_covers

namespace Matcher

variable {m : Matcher} {candidate : Text} {r : Match}

theorem text_ne_nil_of_mem_segments {s : Segment} (hvalid : m.isInvalid = false) (hs : s ∈ m.segments)
    : s.text ≠ [] :=
  Segment.text_ne_nil (isInvalid_of_mem_segments hvalid hs)

theorem of_answer {P : Match → Prop} (hmerge : ∀ r m, P r → P m → P (r.merge m)) {fuzzy : Bool}
    (hfind : ∀ s ∈ m.segments, ∀ t offset, offset + t.length ≤ candidate.length
      → ∀ r, s.answer fuzzy m.settings t offset = some r → P r)
    (h : m.answer fuzzy candidate = some r) : P r := by
  unfold answer at h
  unfold segments at hfind
  split at h
  . next segment hstrategy =>
    rw [hstrategy] at hfind
    apply hfind segment List.mem_cons_self candidate 0 _ r h
    omega
  . next segments separators hstrategy =>
    rw [hstrategy] at hfind
    dsimp only at h
    split at h
    . cases h
    . apply of_mapM_bind_mergeAll hmerge _ h
      intro l hl r hr
      rcases List.of_mem_zip hl with ⟨hsegment, hpart⟩
      have hcuts := Text.splitNonempty_cutsInto separators.contains candidate
      apply hfind l.1 (List.mem_reverse.mp hsegment) l.2.text l.2.start _ r hr
      exact hcuts.stop_le (List.mem_reverse.mp hpart)

theorem exists_covers (hspans : m.settings.includeSpans = true) (hvalid : m.isInvalid = false)
    (h : m.answer false candidate = some r) : ∃ i, r.spans.Covers i := by
  apply of_answer Match.exists_covers_merge _ h
  intro s hs t offset _ r hr
  exact Segment.exists_covers hspans (text_ne_nil_of_mem_segments hvalid hs) hr

theorem answer_liesIn {fuzzy : Bool} (hvalid : m.isInvalid = false) (h : m.answer fuzzy candidate = some r)
    : r.LiesIn 0 candidate.length := by
  apply of_answer (fun _ _ => Match.LiesIn.merge) _ h
  intro s hs t offset hinside r hr
  have hlies := Segment.answer_liesIn (text_ne_nil_of_mem_segments hvalid hs) hr
  refine ⟨hlies.isNormal, ?_⟩
  intro i hi
  have := hlies.covers i hi
  omega

theorem answer_marks (hspans : m.settings.includeSpans = true) (hvalid : m.isInvalid = false)
    (h : m.answer false candidate = some r) : r.Marks candidate := by
  have hlies := answer_liesIn hvalid h
  constructor
  . intro hnil
    rcases exists_covers hspans hvalid h with ⟨i, hi⟩
    rw [hnil] at hi
    exact Spans.not_covers_nil i hi
  . exact hlies.isNormal
  . intro s hs
    have hinside := hlies.isNormal.inside hlies.covers s hs
    omega

end Matcher
end IdentSearch
