import IdentSearch.Proofs.Matcher.Marking
import IdentSearch.Proofs.Ranking.Highlighting
import IdentSearch.Proofs.Session.Punctuation

/-!
Highlighted candidates of matchers in use. Markers are only inserted, and those of a match stand around its
spans, one pair for each.
-/

namespace IdentSearch

theorem Matcher.outcome_liesIn {m : Matcher} {candidate : Text} {r : Match}
    (h : m.outcome (some candidate) = some r) : r.LiesIn 0 candidate.length := by
  unfold outcome at h
  dsimp only at h
  split at h
  . cases h
  . next hvalid =>
    rw [Bool.or_eq_true, not_or] at hvalid
    have hvalid := Bool.eq_false_iff.mpr hvalid.1
    cases Option.or_eq_some_iff.mp h with
    | inl hrules => apply answer_liesIn hvalid hrules
    | inr hsimilar =>
      have hfuzzy := hsimilar.2
      split at hfuzzy
      . apply answer_liesIn hvalid hfuzzy
      . cases hfuzzy

namespace Session

theorem highlight_inserts
    : (∀ (candidate : Text) (spans : Spans),
        highlight candidate spans [] [] = candidate ∧
          ∃ h : Highlighted, h.plain = candidate ∧
            (∀ opening closing, highlight candidate spans opening closing = h.render opening closing) ∧
            (spans.AreApart candidate →
              ∃ ordered, ordered.Perm spans ∧ (ordered.Pairwise fun s t => s.start < t.start) ∧
                h.spans = ordered ∧ h.marked = ordered.map (·.textOf candidate))) ∧
        ∀ (m : Matcher) (steps : List Step) (candidate : Text) (r : Match),
          ((History.after step steps (start m)).tryMatch (some candidate)).1 = .ok (some r) →
            ∃ h : Highlighted, h.plain = candidate ∧
              (∀ opening closing, highlight candidate r.spans opening closing = h.render opening closing) ∧
              h.spans = r.spans ∧ h.marked = r.spans.map (·.textOf candidate) ∧
              h.marked.flatten = r.spans.read candidate ∧
              (m.settings.includeSpans = true → r.kind ≠ .fuzzy → h.marked ≠ []) := by
  constructor
  . intro candidate spans
    rcases exists_highlighted candidate spans with ⟨h, hplain, hrender, hmarked⟩
    constructor
    . rw [hrender, Highlighted.render_nil, hplain]
    . refine ⟨h, hplain, hrender, ?_⟩
      intro happart
      have hsorted := happart.perm (Spans.sort_perm spans).symm
      refine ⟨spans.sort, Spans.sort_perm spans, ?_, hmarked happart⟩
      apply hsorted.increasing (Spans.sort_sorted spans)
  . intro m steps candidate r hanswer
    have houtcome := outcome_of_tryMatch hanswer
    have hlies := Matcher.outcome_liesIn houtcome
    have hinside : ∀ s ∈ r.spans, s.stop ≤ candidate.length := by
      intro s hs
      have hstop := (hlies.isNormal.inside hlies.covers s hs).2
      omega
    rcases exists_highlighted candidate r.spans with ⟨h, hplain, hrender, hmarked⟩
    rw [Spans.sort_of_increasing hlies.isNormal.increasing] at hmarked
    rcases hmarked (hlies.isNormal.areApart hinside) with ⟨hspans, hmarked⟩
    refine ⟨h, hplain, hrender, hspans, hmarked, ?_, ?_⟩
    . rw [hmarked, Spans.read_eq_flatten]
      apply hlies.isNormal.separated.imp
      intro s t hlt
      omega
    . intro hincludes hkind
      rcases Matcher.answer_of_outcome houtcome hkind with ⟨hvalid, hanswer⟩
      have hmarks := Matcher.answer_marks hincludes hvalid hanswer
      simp [hmarked, hmarks.nonempty]

theorem highlight_inserts_coFi
    : let candidate := ['C', 'o', 'd', 'e', 'F', 'i', 'x']
      let spans : Spans := [⟨4, 3⟩, ⟨0, 4⟩]
      let m := Matcher.simple ['C', 'o', 'F', 'i'] { includeSpans := true }
      let s := History.after step [.wordHumps candidate] (start m)
      let r : Match := ⟨.camelExact, false, true, [⟨0, 2⟩, ⟨4, 2⟩]⟩
      spans.AreApart candidate ∧
        (∃ h : Highlighted, h.plain = candidate ∧ ∃ ordered, ordered.Perm spans ∧ h.spans = ordered) ∧
        (s.tryMatch (some candidate)).1 = .ok (some r) ∧
          ∃ h : Highlighted, highlight candidate r.spans ['['] [']'] = h.render ['['] [']'] ∧
            h.spans = r.spans ∧ h.marked ≠ [] := by
  intro candidate spans m s r
  have happart : spans.AreApart candidate := by
    constructor
    . have hdisjoint : ∀ i, ¬ (Span.Covers ⟨4, 3⟩ i ∧ Span.Covers ⟨0, 4⟩ i) := by
        intro i
        simp only [Span.covers_iff]
        omega
      simpa [spans] using hdisjoint
    . decide
    . decide
  have hanswer : (s.tryMatch (some candidate)).1 = .ok (some r) := rfl
  rcases highlight_inserts with ⟨hall, hmatch⟩
  rcases hall candidate spans with ⟨_, h, hplain, _, hmarked⟩
  rcases hmarked happart with ⟨ordered, hperm, _, hspans, _⟩
  rcases hmatch m _ candidate r hanswer with ⟨h', _, hrender, hspans', _, _, hne⟩
  refine ⟨happart, ⟨h, hplain, ordered, hperm, hspans⟩, hanswer, h', hrender ['['] [']'], hspans', ?_⟩
  apply hne rfl
  decide

end Session
end IdentSearch
