import IdentSearch.Proofs.Cascade.Beginning
import IdentSearch.Proofs.Matcher.Containers
import IdentSearch.Proofs.Session.Similarity

/-!
What it means that a match kept the punctuation of its pattern: the pattern was found as a whole and not
word by word. The marked characters then spell the pattern, unless it was typed with a capital and lies on
humps. Such an alignment passes over the characters that belong to no word, and the flag does not show it:
`Co.Fi` is found in `CodeFix` with its punctuation kept.
-/

namespace IdentSearch

theorem Folding.fold_filter_eq_iff {f : Folding} {p : Char → Bool} {t : Text}
    : f.fold (t.filter p) = f.fold t ↔ ∀ c ∈ t, p c = true := by
  constructor
  . intro h
    apply List.length_filter_eq_length_iff.mp
    rw [← length_view f true (t.filter p), view_true, h, ← view_true, length_view]
  . intro h
    rw [List.filter_eq_self.mpr h]

namespace Attempt

variable {a : Attempt}

theorem marked_of_offset_eq_zero (h : a.offset = 0) (spans : Spans) : a.marked spans = spans.read a.candidate := by
  have hback : ∀ s : Span, s.back 0 = s := fun _ => rfl
  simp [marked, h, hback]

theorem spelled_eq (kind : Kind)
    : a.spelled kind
        =
      if kind.isCamel && a.chunk.text.any Text.isUpper then a.chunk.text.filter Text.isWordChar
      else a.chunk.text := by
  rw [spelled, Chunk.isLowercase, Bool.not_not]

end Attempt

/-! ### Who sets the flag -/

namespace Segment

variable {settings : Settings} {candidate : Text} {offset : Nat} {r : Match}

theorem stripped_of_words {s : Segment}
    (h : ((s.words.mapM fun c => (attempt settings candidate offset true c).outcome).bind
      Match.mergeAll) = some r) : r.punctuationStripped = true := by
  apply of_mapM_bind_mergeAll (P := fun m => m.punctuationStripped = true) _ _ h
  . intro r m hr _
    exact Bool.or_eq_true_iff.mpr (.inl hr)
  . intro c _ m hm
    exact Attempt.outcome_stripped hm

theorem outcome_of_kept {s : Segment} (h : s.answer false settings candidate offset = some r)
    (hkept : r.punctuationStripped = false)
    : (attempt settings candidate offset false s.total).outcome = some r := by
  unfold answer outcome at h
  rcases Option.or_eq_some_iff.mp h with htotal | ⟨_, hwords⟩
  . exact htotal
  . have hstripped := stripped_of_words hwords
    rw [hkept] at hstripped
    cases hstripped

end Segment

/-! ### What the flag says -/

namespace Matcher

theorem eq_simple_of_create {pattern : Text} {o : Options} {m : Matcher} (hsimple : o.separators = none)
    (h : create (some pattern) (some o) = .ok m) : m = simple pattern o := by
  unfold create at h
  dsimp only at h
  split at h
  . cases h
  . rw [hsimple] at h
    cases h
    rfl

theorem answer_of_outcome {m : Matcher} {candidate : Text} {r : Match}
    (h : m.outcome (some candidate) = some r) (hkind : r.kind ≠ .fuzzy)
    : m.isInvalid = false ∧ m.answer false candidate = some r := by
  unfold outcome at h
  dsimp only at h
  split at h
  . cases h
  . next hvalid =>
    rw [Bool.or_eq_true, not_or] at hvalid
    refine ⟨Bool.eq_false_iff.mpr hvalid.1, ?_⟩
    rcases Option.or_eq_some_iff.mp h with hrule | ⟨_, hfuzzy⟩
    . exact hrule
    . rw [← fuzzily_eq] at hfuzzy
      exact absurd (fuzzily_isBare hfuzzy).kind hkind

theorem text_ne_nil_of_simple {pattern : Text} {o : Options} (h : (simple pattern o).isInvalid = false)
    : pattern.trim ≠ [] := by
  have hsegment : (⟨pattern.trim⟩ : Segment) ∈ (simple pattern o).segments := List.mem_cons_self
  exact Segment.text_ne_nil (isInvalid_of_mem_segments h hsegment)

end Matcher

namespace Session

theorem outcome_of_tryMatch {m : Matcher} {steps : List Step} {candidate : Option Text}
    {answer : Option Match}
    (h : ((History.after step steps (start m)).tryMatch candidate).1 = .ok answer)
    : m.outcome candidate = answer := by
  cases hdisposed : (History.after step steps (start m)).disposed with
  | true =>
    rw [tryMatch_of_disposed hdisposed] at h
    cases h
  | false =>
    rw [(after_isOf m steps).tryMatch_eq hdisposed] at h
    cases h
    rfl

theorem tryMatch_kept (pattern candidate : Text) (o : Options) (m : Matcher) (steps : List Step) (r : Match)
    (hcreate : Matcher.create (some pattern) (some o) = .ok m) (hsimple : o.separators = none)
    (hspans : o.includeSpans = true)
    (hanswer : ((History.after step steps (start m)).tryMatch (some candidate)).1 = .ok (some r))
    (hkind : r.kind ≠ .fuzzy) (hkept : r.punctuationStripped = false)
    : let f := Folding.ofLocale o.locale
      let marked := r.spans.read candidate
      let onCapitals := r.kind.isCamel && pattern.trim.any Text.isUpper
      f.fold marked
          = f.fold (if onCapitals then pattern.trim.filter Text.isWordChar else pattern.trim) ∧
        (f.fold marked = f.fold pattern.trim
          ↔ (onCapitals = true → ∀ c ∈ pattern.trim, Text.isWordChar c = true)) := by
  intro f marked onCapitals
  cases Matcher.eq_simple_of_create hsimple hcreate
  rcases Matcher.answer_of_outcome (outcome_of_tryMatch hanswer) hkind with ⟨hvalid, hanswer⟩
  have htext := Matcher.text_ne_nil_of_simple hvalid
  have houtcome := Segment.outcome_of_kept hanswer hkept
  have htruthful := (Attempt.outcome_reports htext houtcome).truthful hspans
  have hmarked : f.fold marked
      = f.fold (if onCapitals then pattern.trim.filter Text.isWordChar else pattern.trim) := by
    have hfolds := htruthful.folds
    rw [Attempt.marked_of_offset_eq_zero rfl, Attempt.spelled_eq] at hfolds
    exact hfolds
  refine ⟨hmarked, ?_⟩
  rw [hmarked]
  cases onCapitals with
  | false => simp
  | true =>
    rw [if_pos rfl, Folding.fold_filter_eq_iff]
    simp

theorem tryMatch_kept_coFi
    : let o : Options := { includeSpans := true }
      let m := Matcher.simple ['C', 'o', '.', 'F', 'i'] o
      let steps := [Step.tryMatch (some ['C', 'o', '.', 'F', 'i']), .wordHumps ['C', 'o', 'd', 'e']]
      let r : Match := ⟨.camelExact, false, true, [⟨0, 2⟩, ⟨4, 2⟩]⟩
      Matcher.create (some ['C', 'o', '.', 'F', 'i']) (some o) = .ok m ∧
        ((History.after step steps (start m)).tryMatch (some ['C', 'o', 'd', 'e', 'F', 'i', 'x'])).1
            = .ok (some r) ∧
          Folding.plain.fold (r.spans.read ['C', 'o', 'd', 'e', 'F', 'i', 'x'])
              = Folding.plain.fold ['C', 'o', 'F', 'i'] := by
  intro o m steps r
  have hcreate : Matcher.create (some ['C', 'o', '.', 'F', 'i']) (some o) = .ok m := rfl
  have hanswer : ((History.after step steps (start m)).tryMatch
      (some ['C', 'o', 'd', 'e', 'F', 'i', 'x'])).1 = .ok (some r) := rfl
  have hkept := tryMatch_kept _ _ o m steps r hcreate rfl rfl hanswer Kind.noConfusion rfl
  exact ⟨hcreate, hanswer, hkept.1⟩

-- `Co.Fi` is found in `CodeFix` with its punctuation kept, and what is marked reads `CoFi`.
theorem not_forall_kept_spelled
    : ¬ ∀ (pattern candidate : Text) (o : Options) (m : Matcher) (steps : List Step) (r : Match),
        Matcher.create (some pattern) (some o) = .ok m → o.separators = none → o.includeSpans = true
          → ((History.after step steps (start m)).tryMatch (some candidate)).1 = .ok (some r)
          → r.kind ≠ .fuzzy → r.punctuationStripped = false
          → (Folding.ofLocale o.locale).fold (r.spans.read candidate)
              = (Folding.ofLocale o.locale).fold pattern.trim := by
  intro h
  have hcoFi := h ['C', 'o', '.', 'F', 'i'] ['C', 'o', 'd', 'e', 'F', 'i', 'x'] { includeSpans := true }
    (.simple ['C', 'o', '.', 'F', 'i'] { includeSpans := true }) []
    ⟨.camelExact, false, true, [⟨0, 2⟩, ⟨4, 2⟩]⟩ rfl rfl rfl rfl Kind.noConfusion rfl
  revert hcoFi
  decide

end Session
end IdentSearch
