import IdentSearch.Proofs.Span.Canonical
import IdentSearch.Proofs.Span.Reading
import IdentSearch.Ranking

/-!
Candidates with markers. Whatever the spans are, markers only come on top of the candidate, in pairs of which
none stands inside another; and spans that have no position in common get a pair each.
-/

namespace IdentSearch

theorem Text.slice_append_drop {position start : Nat} (t : Text) (h : position ≤ start)
    : t.slice position (start - position) ++ t.drop start = t.drop position := by
  have happend := Span.textOf_append_drop ⟨position, start - position⟩ t
  simp only [Span.stop, Nat.add_sub_cancel' h] at happend
  exact happend

structure Highlighted where
  parts : List (Text × Text)
  rest : Text

namespace Highlighted

def render (opening closing : Text) (h : Highlighted) : Text :=
  (h.parts.map fun p => p.1 ++ opening ++ p.2 ++ closing).flatten ++ h.rest

def plain (h : Highlighted) : Text := (h.parts.map fun p => p.1 ++ p.2).flatten ++ h.rest

def marked (h : Highlighted) : List Text := h.parts.map (·.2)

def spans (h : Highlighted) : Spans := go 0 h.parts
where
  go (position : Nat) : List (Text × Text) → Spans
    | [] => []
    | (before, part) :: rest =>
      ⟨position + before.length, part.length⟩ :: go (position + before.length + part.length) rest

/-- A candidate from a position on, in which spans are marked that do not start inside an earlier one. -/
def ofSpans (candidate : Text) (position : Nat) : Spans → Highlighted
  | [] => ⟨[], candidate.drop position⟩
  | s :: ss =>
    if s.start < position then ofSpans candidate position ss
    else
      let behind := ofSpans candidate s.stop ss
      ⟨(candidate.slice position (s.start - position), s.textOf candidate) :: behind.parts, behind.rest⟩

variable {candidate : Text} {position : Nat} {ss : Spans}

@[simp]
theorem render_nil (h : Highlighted) : h.render [] [] = h.plain := by
  simp [render, plain]

theorem highlight_go_eq_render (opening closing : Text)
    : highlight.go candidate opening closing position ss
        =
      (ofSpans candidate position ss).render opening closing := by
  induction ss generalizing position with
  | nil => simp [highlight.go, ofSpans, render]
  | cons s ss ih =>
    unfold highlight.go ofSpans
    split
    . apply ih
    . simp [ih, render]

theorem plain_ofSpans : (ofSpans candidate position ss).plain = candidate.drop position := by
  induction ss generalizing position with
  | nil => simp [ofSpans, plain]
  | cons s ss ih =>
    unfold ofSpans
    split
    . apply ih
    . next hstart =>
      simp only [plain] at ih
      simp only [plain, List.map_cons, List.flatten_cons, List.append_assoc, ih]
      rw [Span.textOf_append_drop, Text.slice_append_drop _ (Nat.not_lt.mp hstart)]

section
variable (hchain : ss.Pairwise fun s t => s.stop ≤ t.start) (hstart : ∀ s ∈ ss, position ≤ s.start)
include hchain hstart

theorem marked_ofSpans : (ofSpans candidate position ss).marked = ss.map (·.textOf candidate) := by
  induction ss generalizing position with
  | nil => rfl
  | cons s ss ih =>
    rw [List.pairwise_cons] at hchain
    rw [List.forall_mem_cons] at hstart
    have hbehind := ih hchain.2 hchain.1
    unfold ofSpans
    rw [if_neg (Nat.not_lt.mpr hstart.1)]
    simpa [marked] using hbehind

theorem spans_go_ofSpans (hinside : ∀ s ∈ ss, s.stop ≤ candidate.length)
    : spans.go position (ofSpans candidate position ss).parts = ss := by
  induction ss generalizing position with
  | nil => rfl
  | cons s ss ih =>
    rw [List.pairwise_cons] at hchain
    rw [List.forall_mem_cons] at hstart hinside
    have hbehind := ih hchain.2 hchain.1 hinside.2
    have hbefore : position + (candidate.slice position (s.start - position)).length = s.start := by
      have hstop := hinside.1
      simp only [Text.length_slice, Span.stop] at hstop ⊢
      omega
    have hlength : (s.textOf candidate).length = s.length := by
      have hstop := hinside.1
      simp only [Span.textOf, Text.length_slice, Span.stop] at hstop ⊢
      omega
    unfold ofSpans
    rw [if_neg (Nat.not_lt.mpr hstart.1)]
    dsimp only
    rw [spans.go, hbefore, hlength]
    congr 1

end

end Highlighted

/-! ### Spans without a common position -/

namespace Spans

structure AreApart (spans : Spans) (t : Text) : Prop where
  disjoint : spans.Pairwise fun s u => ∀ i, ¬ (s.Covers i ∧ u.Covers i)
  nonempty : ∀ s ∈ spans, 0 < s.length
  inside : ∀ s ∈ spans, s.stop ≤ t.length

variable {spans others : Spans} {t : Text}

theorem AreApart.perm (h : spans.AreApart t) (hperm : spans.Perm others) : others.AreApart t := by
  constructor
  . apply hperm.pairwise h.disjoint
    intro s u hsu i hcov
    apply hsu i
    exact hcov.symm
  . intro s hs
    apply h.nonempty
    exact hperm.mem_iff.mpr hs
  . intro s hs
    apply h.inside
    exact hperm.mem_iff.mpr hs

theorem AreApart.chain (h : spans.AreApart t) (hsorted : spans.Pairwise fun s u => s.start ≤ u.start)
    : spans.Pairwise fun s u => s.stop ≤ u.start := by
  apply (hsorted.and h.disjoint).imp_of_mem
  rintro s u _ hu ⟨hle, hdisjoint⟩
  have hpos := h.nonempty u hu
  by_contra hlt
  -- Otherwise the first position of the second span belongs to both.
  apply hdisjoint u.start
  simp only [Span.covers_iff, Span.stop] at hlt ⊢
  omega

theorem AreApart.increasing (h : spans.AreApart t) (hsorted : spans.Pairwise fun s u => s.start ≤ u.start)
    : spans.Pairwise fun s u => s.start < u.start := by
  apply (h.chain hsorted).imp_of_mem
  intro s u hs _ hle
  have hpos := h.nonempty s hs
  simp only [Span.stop] at hle
  omega

theorem IsNormal.areApart (h : IsNormal spans) (hinside : ∀ s ∈ spans, s.stop ≤ t.length)
    : spans.AreApart t := by
  constructor
  . apply h.separated.imp
    rintro s u hlt i ⟨hs, hu⟩
    simp only [Span.covers_iff, Span.stop] at hlt hs hu
    omega
  . exact h.positive
  . exact hinside

theorem sort_of_increasing (h : spans.Pairwise fun s u => s.start < u.start) : sort spans = spans := by
  induction spans with
  | nil => rfl
  | cons s ss ih =>
    rw [List.pairwise_cons] at h
    rw [sort, ih h.2]
    cases ss with
    | nil => rfl
    | cons u us =>
      have hlt := h.1 u List.mem_cons_self
      rw [insert, if_neg]
      simp only [Span.precedes, decide_eq_true_eq]
      omega

end Spans

/-! ### Highlighting -/

theorem exists_highlighted (candidate : Text) (spans : Spans)
    : ∃ h : Highlighted, h.plain = candidate ∧
        (∀ opening closing, highlight candidate spans opening closing = h.render opening closing) ∧
        (spans.AreApart candidate → h.spans = spans.sort ∧ h.marked = spans.sort.map (·.textOf candidate)) := by
  refine ⟨.ofSpans candidate 0 spans.sort, Highlighted.plain_ofSpans, ?_, ?_⟩
  . intro opening closing
    apply Highlighted.highlight_go_eq_render
  . intro happart
    have hsorted := happart.perm (Spans.sort_perm spans).symm
    have hchain := hsorted.chain (Spans.sort_sorted spans)
    have hstart : ∀ s ∈ spans.sort, 0 ≤ s.start := fun _ _ => Nat.zero_le _
    constructor
    . apply Highlighted.spans_go_ofSpans hchain hstart hsorted.inside
    . apply Highlighted.marked_ofSpans hchain hstart

-- An empty span, one inside another and one that leads out of the candidate.
example : highlight ['a', 'b', 'c'] [⟨2, 9⟩, ⟨0, 2⟩, ⟨1, 1⟩, ⟨0, 0⟩] ['<'] ['>']
    = ['<', '>', '<', 'a', 'b', '>', '<', 'c', '>'] := by
  decide

end IdentSearch
