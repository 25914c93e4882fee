import IdentSearch.Proofs.Alignment.Greedy
import IdentSearch.Proofs.Alignment.Spread.Laid
import IdentSearch.Proofs.Session.Coherence

/-!
Matches tell the truth: whichever rule found a chunk, the marked characters of the candidate spell the
chunk, and they do so letter for letter if the match says that case agrees.
-/

namespace IdentSearch

namespace Folding

variable {f : Folding} {ignoreCase : Bool}

theorem fold_eq_of_view_eq {t u : Text} (h : f.view ignoreCase t = f.view ignoreCase u)
    : f.fold t = f.fold u := by
  cases ignoreCase with
  | true => exact h
  | false =>
    rw [view_false, view_false] at h
    rw [h]

theorem ne_nil_of_view_eq {t u : Text} (h : f.view ignoreCase t = f.view ignoreCase u) (hu : u ≠ [])
    : t ≠ [] := by
  have hlen := congrArg List.length h
  rw [length_view, length_view] at hlen
  apply List.ne_nil_of_length_pos
  rw [hlen]
  exact List.length_pos_iff.mpr hu

end Folding

namespace Attempt

/--
What the marked characters have to spell: the chunk, or its word characters only if it holds capitals and
lies on humps.
-/
def spelled (a : Attempt) (kind : Kind) : Text :=
  if kind.isCamel && !a.chunk.isLowercase then a.chunk.text.filter Text.isWordChar else a.chunk.text

def marked (a : Attempt) (spans : Spans) : Text :=
  Spans.read (spans.map (·.back a.offset)) a.candidate

structure Truthful (a : Attempt) (r : Match) : Prop where
  nonempty : r.spans ≠ []
  normal : r.spans.IsNormal
  inside : ∀ s ∈ r.spans, a.offset ≤ s.start ∧ s.stop ≤ a.offset + a.candidate.length
  folds : a.settings.folding.fold (a.marked r.spans) = a.settings.folding.fold (a.spelled r.kind)
  literal : r.caseSensitive = true → a.marked r.spans = a.spelled r.kind

/-- The match tells the truth once it has its spans, which it has if they are wanted. -/
def Reports (a : Attempt) (r : Match) : Prop :=
  ∃ spans, a.Truthful (r.withSpans spans) ∧ r.spans = if a.settings.includeSpans then spans else []

variable {a : Attempt} {r : Match} {kind : Kind} {caseSensitive ignoreCase : Bool} {position : Nat}

theorem Reports.truthful (h : a.Reports r) (hspans : a.settings.includeSpans = true)
    : a.Truthful r := by
  rcases h with ⟨spans, htruthful, heq⟩
  rw [if_pos hspans] at heq
  subst heq
  exact htruthful

theorem Reports.isNormal (h : a.Reports r) : r.spans.IsNormal := by
  rcases h with ⟨spans, htruthful, heq⟩
  rw [heq]
  split
  . exact htruthful.normal
  . exact Spans.isNormal_nil

theorem Reports.covers (h : a.Reports r) {i : Nat} (hi : r.spans.Covers i)
    : a.offset ≤ i ∧ i < a.offset + a.candidate.length := by
  rcases h with ⟨spans, htruthful, heq⟩
  rw [heq] at hi
  split at hi
  . rcases hi with ⟨s, hs, hcov⟩
    have hinside := htruthful.inside s hs
    rw [Span.covers_iff] at hcov
    simp only [Span.stop] at hinside
    omega
  . exact absurd hi (Spans.not_covers_nil i)

theorem found_reports {spans : Spans} (h : a.Truthful ⟨kind, a.stripped, caseSensitive, spans⟩)
    : a.Reports (a.found kind caseSensitive spans) :=
  ⟨spans, h, rfl⟩

section
variable (htext : a.chunk.text ≠ [])
include htext

/-! ### Occurrences of the whole chunk -/

theorem found_reports_of_fold (hkind : kind.isCamel = false)
    (hfold : a.settings.folding.fold (a.candidate.slice position a.chunk.text.length)
      = a.settings.folding.fold a.chunk.text)
    (hliteral : caseSensitive = true
      → a.candidate.slice position a.chunk.text.length = a.chunk.text)
    : a.Reports (a.found kind caseSensitive [a.spanAt position]) := by
  have hpos := List.length_pos_iff.mpr htext
  have hlen := congrArg List.length hfold
  rw [← Folding.view_true, ← Folding.view_true, Folding.length_view, Folding.length_view,
    Text.length_slice] at hlen
  have hmarked : a.marked [a.spanAt position] = a.candidate.slice position a.chunk.text.length := by
    unfold marked spanAt
    rw [List.map_singleton, Spans.read_singleton, Span.textOf, Span.back, Nat.add_sub_cancel_left]
  have hspelled : a.spelled kind = a.chunk.text := by
    rw [spelled, hkind]
    rfl
  apply found_reports
  constructor
  . exact List.cons_ne_nil _ _
  . exact Spans.singleton_isNormal hpos
  . intro s hs
    rw [List.mem_singleton.mp hs]
    simp only [spanAt, Span.stop]
    omega
  . rw [hmarked, hspelled]
    exact hfold
  . rw [hmarked, hspelled]
    exact hliteral

theorem found_reports_of_index (hkind : kind.isCamel = false)
    (hindex : a.index ignoreCase = some position)
    (hliteral : caseSensitive = true
      → a.candidate.slice position a.chunk.text.length = a.chunk.text)
    : a.Reports (a.found kind caseSensitive [a.spanAt position]) := by
  apply found_reports_of_fold htext hkind _ hliteral
  have hview := Folding.view_slice_of_indexOf_eq_some hindex
  exact Folding.fold_eq_of_view_eq hview

omit htext in
theorem view_slice_of_partStarts {part : Span} (h : a.partStarts ignoreCase part = true)
    : a.settings.folding.view ignoreCase (a.candidate.slice part.start a.chunk.text.length)
        =
      a.settings.folding.view ignoreCase a.chunk.text := by
  have hregion := (Folding.partStartsWith_iff.mp h).2
  have hwhole : (⟨0, a.chunk.text.length⟩ : Span).textOf a.chunk.text = a.chunk.text :=
    List.take_length
  rw [hwhole] at hregion
  exact hregion

theorem substringAt_reports (hindex : a.index ignoreCase = some position)
    : a.Reports (a.substringAt position) := by
  apply found_reports_of_index htext rfl hindex
  intro hcase
  exact view_slice_of_partStarts hcase

theorem atBeginning_reports (h : a.atBeginning = some r) : a.Reports r := by
  have hspan : a.spanAt 0 = ⟨a.offset, a.chunk.text.length⟩ := rfl
  unfold atBeginning at h
  split at h
  . next hindex =>
    split at h
    . next hlen =>
      cases h
      rw [← hlen, ← hspan]
      apply found_reports_of_index htext rfl hindex
      intro hsame
      rw [beq_iff_eq] at hsame
      rw [hsame]
      exact List.take_length
    . cases h
      rw [← hspan]
      apply found_reports_of_index htext rfl hindex
      intro hstarts
      have hprefix := Folding.startsWith_iff.mp hstarts
      exact (List.prefix_iff_eq_take.mp hprefix).symm
  . cases h

theorem anywhere_reports (h : a.anywhere = some r) : a.Reports r := by
  unfold anywhere at h
  split at h
  . rcases Option.map_eq_some_iff.mp h with ⟨position, hindex, rfl⟩
    exact substringAt_reports htext hindex
  . cases h

theorem atPunctuation_reports (hindex : a.index true = some position)
    (h : a.atPunctuation position = some r) : a.Reports r := by
  unfold atPunctuation at h
  split at h
  . cases h
    exact substringAt_reports htext hindex
  . cases h

theorem atHump_reports {humps : Spans} (h : a.atHump humps = some r) : a.Reports r := by
  rcases Option.map_eq_some_iff.mp h with ⟨s, hfind, rfl⟩
  apply found_reports_of_fold htext rfl
  . exact view_slice_of_partStarts (List.find?_some hfind)
  . intro hcase
    exact view_slice_of_partStarts hcase

theorem literally_reports (h : a.literally = some r) : a.Reports r := by
  unfold literally at h
  split at h
  . next n hindex =>
    cases h
    apply found_reports_of_index htext rfl hindex
    intro _
    exact Folding.view_slice_of_indexOf_eq_some hindex
  . cases h

theorem innerMatch_reports (h : a.innerMatch = some r) : a.Reports r := by
  unfold innerMatch at h
  split at h
  . rcases Option.bind_eq_some_iff.mp h with ⟨position, hindex, hrules⟩
    rcases Option.or_eq_some_iff.mp hrules with hrule | ⟨_, hrule⟩
    . exact atPunctuation_reports htext hindex hrule
    . exact atHump_reports htext hrule
  . exact literally_reports htext h

theorem onCapital_reports (h : a.onCapital = some r) : a.Reports r := by
  unfold onCapital at h
  split at h
  . next position hindex =>
    split at h
    . cases h
      apply found_reports_of_index htext rfl hindex
      intro hcase
      cases hcase
    . cases h
  . cases h

end

/-! ### Alignments -/

theorem isCamel_alignment (alignment : Alignment) : alignment.kind.isCamel = true := by
  unfold Alignment.kind
  cases alignment.contiguous <;> cases alignment.fromStart <;> cases alignment.toEnd <;> rfl

theorem marked_shift (spans : Spans)
    : a.marked (Spans.normalize (spans.map (·.shift a.offset))) = spans.read a.candidate := by
  unfold marked
  rw [Spans.normalize_map_shift, Spans.map_back_map_shift, Spans.read_normalize]

theorem inside_shift {spans : Spans} (h : ∀ i, spans.Covers i → i < a.candidate.length)
    : ∀ s ∈ Spans.normalize (spans.map (·.shift a.offset)),
        a.offset ≤ s.start ∧ s.stop ≤ a.offset + a.candidate.length := by
  apply (Spans.normalize_isNormal _).inside
  intro i hi
  rw [Spans.covers_normalize, Spans.covers_map_shift] at hi
  have := h _ hi.2
  omega

theorem aligned_reports {text : Text} (htext : text ≠ [])
    {alignment : Alignment} (hspelled : a.spelled alignment.kind = text)
    (h : alignment.Spells a.settings.folding ignoreCase a.candidate text)
    (hcase : caseSensitive = true → ignoreCase = false)
    : a.Reports (a.aligned caseSensitive alignment) := by
  have hmarked : a.marked (alignment.shift a.offset).spans = alignment.spans.read a.candidate :=
    marked_shift alignment.spans
  unfold aligned
  apply found_reports
  constructor
  . intro hnil
    apply Folding.ne_nil_of_view_eq h.reads htext
    dsimp only at hnil
    rw [← hmarked, hnil]
    exact Spans.read_nil a.candidate
  . exact Spans.normalize_isNormal _
  . exact inside_shift h.inside
  . dsimp only
    rw [hmarked, hspelled]
    exact Folding.fold_eq_of_view_eq h.reads
  . dsimp only
    intro hsensitive
    rw [hmarked, hspelled]
    have hreads := h.reads
    rw [hcase hsensitive] at hreads
    exact hreads

theorem onHumps_reports (htext : a.chunk.text ≠ [])
    (h : a.onHumps (wordHumps a.candidate) = some r) : a.Reports r := by
  have hhumps := Spans.wordHumps_inOrder a.candidate
  unfold onHumps at h
  dsimp only at h
  split at h
  . next hlower =>
    rcases Option.map_eq_some_iff.mp h with ⟨alignment, halign, rfl⟩
    apply aligned_reports htext _ (Spread.align_spells hhumps halign)
    . intro hcase
      cases hcase
    . simp [spelled, hlower]
  . next hupper =>
    have hspelled : ∀ alignment : Alignment,
        a.spelled alignment.kind = a.chunk.text.filter Text.isWordChar := by
      intro alignment
      simp [spelled, isCamel_alignment, hupper]
    split at h
    . next alignment halign =>
      cases h
      apply aligned_reports _ (hspelled _) (Greedy.align_spells hhumps halign)
      . intro _
        rfl
      . exact Greedy.filter_ne_nil halign
    . rcases Option.map_eq_some_iff.mp h with ⟨alignment, halign, rfl⟩
      apply aligned_reports _ (hspelled _) (Greedy.align_spells hhumps halign)
      . intro hcase
        cases hcase
      . exact Greedy.filter_ne_nil halign

/-! ### All rules -/

theorem outcome_reports (htext : a.chunk.text ≠ [])
    (h : a.outcome = some r) : a.Reports r := by
  rcases Option.or_eq_some_iff.mp h with hrule | ⟨_, h⟩
  . exact atBeginning_reports htext hrule
  rcases Option.or_eq_some_iff.mp h with hrule | ⟨_, h⟩
  . exact anywhere_reports htext hrule
  rcases Option.or_eq_some_iff.mp h with hrule | ⟨_, h⟩
  . exact innerMatch_reports htext hrule
  rcases Option.or_eq_some_iff.mp h with hrule | ⟨_, hrule⟩
  . exact onHumps_reports htext hrule
  . exact onCapital_reports htext hrule

theorem run_truthful (m : Matcher) (steps : List Session.Step) (candidate : Text) (offset : Nat)
    (stripped : Bool) (chunk : Chunk) (hspans : m.settings.includeSpans = true) (htext : chunk.text ≠ [])
    {r : Match}
    (h : ((Segment.attempt m.settings candidate offset stripped chunk).run (HumpCache.get .words)
      (History.after Session.step steps (Session.start m)).cache).1 = some r)
    : (Segment.attempt m.settings candidate offset stripped chunk).Truthful r := by
  have hcoherent := (Session.after_isOf m steps).coherent
  rw [(HumpCache.evaluation.run HumpCache.yields_get _ _ hcoherent).1] at h
  exact (outcome_reports htext h).truthful hspans

-- A chunk with capitals and punctuation on humps of a container part, the store holding humps already.
theorem run_truthful_coFi
    : ((Segment.attempt ⟨.plain, true, false, false⟩ ['M', 'y', 'C', 'o', 'd', 'e', 'F', 'i', 'x'] 4 true
          ⟨['C', 'o', '.', 'F', 'i']⟩).run (HumpCache.get .words)
        (History.after Session.step [.tryMatch (some ['M', 'y', 'C', 'o', 'd', 'e', 'F', 'i', 'x']), .enter]
          (Session.start
            ⟨none, ⟨.plain, true, false, false⟩, .simple ⟨['C', 'o', '.', 'F', 'i']⟩⟩)).cache).1
          = some ⟨.camelContiguous, true, true, [⟨6, 2⟩, ⟨10, 2⟩]⟩ ∧
        (Segment.attempt ⟨.plain, true, false, false⟩ ['M', 'y', 'C', 'o', 'd', 'e', 'F', 'i', 'x'] 4 true
          ⟨['C', 'o', '.', 'F', 'i']⟩).Truthful
            ⟨.camelContiguous, true, true, [⟨6, 2⟩, ⟨10, 2⟩]⟩ := by
  constructor
  . rfl
  . apply run_truthful ⟨none, ⟨.plain, true, false, false⟩, .simple ⟨['C', 'o', '.', 'F', 'i']⟩⟩
      [.tryMatch (some ['M', 'y', 'C', 'o', 'd', 'e', 'F', 'i', 'x']), .enter]
    . rfl
    . exact List.cons_ne_nil _ _
    . rfl

end Attempt
end IdentSearch
