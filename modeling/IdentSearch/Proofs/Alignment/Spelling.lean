import IdentSearch.Proofs.Hump.Locality
import IdentSearch.Proofs.Text.Folding

/-!
What alignments highlight. Pieces of a pattern lie on beginnings of humps, from left to right; then the
characters below them read the pattern, as far as the comparison can tell.
-/

namespace IdentSearch

namespace Spans

structure InOrder (t : Text) (spans : Spans) : Prop where
  ordered : spans.Pairwise fun s u => s.stop ≤ u.start
  inside : ∀ s ∈ spans, s.stop ≤ t.length

theorem InOrder.sublist {t : Text} {xs ys : Spans} (h : InOrder t ys) (hsub : xs.Sublist ys)
    : InOrder t xs := by
  constructor
  . exact h.ordered.sublist hsub
  . intro s hs
    apply h.inside
    exact hsub.subset hs

theorem wordHumps_inOrder (t : Text) : InOrder t (wordHumps t) := by
  constructor
  . exact (Breaking.humps_tiles .words t).ordered
  . intro s hs
    exact (Breaking.humps_tiles .words t).stop_le_length hs

theorem InOrder.span_eq {t : Text} {spans : Spans} (h : InOrder t spans) {s : Span} (hs : s ∈ spans)
    : (⟨s.start, (s.textOf t).length⟩ : Span) = s := by
  have hstop := h.inside s hs
  have hlen : (s.textOf t).length = s.length := by
    rw [Span.textOf, Text.length_slice]
    simp only [Span.stop] at hstop
    omega
  rw [hlen]

end Spans

structure LaidPiece where
  hump : Span
  piece : Text

def LaidPiece.span (p : LaidPiece) : Span := ⟨p.hump.start, p.piece.length⟩

structure Laid (f : Folding) (ignoreCase : Bool) (candidate : Text) (pieces : List LaidPiece) : Prop where
  inOrder : Spans.InOrder candidate (pieces.map (·.hump))
  begins : ∀ p ∈ pieces, p.piece <+: f.view ignoreCase (p.hump.textOf candidate)

namespace Laid

variable {f : Folding} {ignoreCase : Bool} {candidate : Text} {p : LaidPiece} {pieces : List LaidPiece}

theorem length_le (h : Laid f ignoreCase candidate pieces) (hp : p ∈ pieces)
    : p.piece.length ≤ p.hump.length := by
  have hprefix := (h.begins p hp).length_le
  rw [Folding.length_view, Span.textOf, Text.length_slice] at hprefix
  omega

theorem stop_le (h : Laid f ignoreCase candidate pieces) (hp : p ∈ pieces)
    : p.span.stop ≤ p.hump.stop := by
  have := h.length_le hp
  simp only [LaidPiece.span, Span.stop]
  omega

theorem view_textOf_span (h : Laid f ignoreCase candidate pieces) (hp : p ∈ pieces)
    : f.view ignoreCase (p.span.textOf candidate) = p.piece := by
  have hlen := h.length_le hp
  have hprefix := List.prefix_iff_eq_take.mp (h.begins p hp)
  rw [← Folding.view_take, Span.textOf, Text.slice, List.take_take, Nat.min_eq_left hlen] at hprefix
  exact hprefix.symm

theorem lt_length_of_covers (h : Laid f ignoreCase candidate pieces) {i : Nat}
    (hi : Spans.Covers (pieces.map (·.span)) i) : i < candidate.length := by
  rcases hi with ⟨s, hs, hcov⟩
  rcases List.mem_map.mp hs with ⟨p, hp, rfl⟩
  have hstop := h.stop_le hp
  have hinside := h.inOrder.inside p.hump (List.mem_map_of_mem hp)
  have := hcov.2
  omega

theorem ordered (h : Laid f ignoreCase candidate pieces)
    : (pieces.map (·.span)).Pairwise fun s u => s.stop ≤ u.start := by
  have hordered := h.inOrder.ordered
  rw [List.pairwise_map] at hordered ⊢
  apply hordered.imp_of_mem
  intro p q hp _ hpq
  have hstop := h.stop_le hp
  exact Nat.le_trans hstop hpq

theorem view_read (h : Laid f ignoreCase candidate pieces)
    : f.view ignoreCase (Spans.read (pieces.map (·.span)) candidate) = (pieces.map (·.piece)).flatten := by
  rw [Spans.read_eq_flatten h.ordered, Folding.view_flatten, List.map_map, List.map_map]
  congr 1
  apply List.map_congr_left
  intro p hp
  exact h.view_textOf_span hp

end Laid

structure Alignment.Spells (f : Folding) (ignoreCase : Bool) (candidate text : Text) (a : Alignment) : Prop where
  inside : ∀ i, a.spans.Covers i → i < candidate.length
  reads : f.view ignoreCase (a.spans.read candidate) = f.view ignoreCase text

end IdentSearch
