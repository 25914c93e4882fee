import IdentSearch.Alignment.Greedy
import IdentSearch.Proofs.Alignment.Spelling

/-!
The alignment of a chunk with capitals reads the word characters of the chunk: every candidate hump begins
with the pattern humps that it took, and together they are all pattern humps.
-/

namespace IdentSearch

theorem Chunk.flatten_humpTexts (c : Chunk) : c.humpTexts.flatten = c.text.filter Text.isWordChar := by
  have hlocal := (Breaking.humps_tiles .characters c.text).cutsLocally
  unfold humpTexts humps characterHumps
  rw [← Spans.read_eq_flatten hlocal.ordered]
  apply Spans.read_eq_filter
  intro i ch hch
  rw [hlocal.covers_iff, Breaking.IsWordAt]
  constructor
  . rintro ⟨d, hd, hword⟩
    rw [hch] at hd
    cases hd
    exact hword
  . intro hword
    exact ⟨ch, hch, hword⟩

theorem Chunk.filter_ne_nil (c : Chunk) (h : c.humps ≠ []) : c.text.filter Text.isWordChar ≠ [] := by
  have htiles := Breaking.humps_tiles .characters c.text
  rcases List.exists_mem_of_ne_nil c.humps h with ⟨s, hs⟩
  have hpos := htiles.positive hs
  have hcovers : s.Covers s.start := by
    rw [Span.covers_iff]
    omega
  rcases htiles.isWordAt_of_covers hs hcovers with ⟨ch, hch, hword⟩
  apply List.ne_nil_of_mem (a := ch)
  exact List.mem_filter.mpr ⟨List.mem_of_getElem? hch, hword⟩

def Hump.span (h : Hump) : Span := ⟨h.start, h.text.length⟩

namespace Greedy

variable {f : Folding} {ignoreCase : Bool}

theorem absorb_append (rest : Text) (previous : Option Text) (ps : List Text)
    : (absorb f ignoreCase rest previous ps).1 ++ (absorb f ignoreCase rest previous ps).2 = ps := by
  induction ps generalizing rest previous with
  | nil => rfl
  | cons p ps ih =>
    unfold absorb
    split
    . dsimp only
      rw [List.cons_append, ih]
    . rfl

theorem absorb_prefix (rest : Text) (previous : Option Text) (ps : List Text)
    : f.view ignoreCase (absorb f ignoreCase rest previous ps).1.flatten
        <+:
      f.view ignoreCase rest := by
  induction ps generalizing rest previous with
  | nil =>
    unfold absorb
    rw [Folding.view_eq_map]
    exact List.nil_prefix
  | cons p ps ih =>
    unfold absorb
    split
    . next htakes =>
      dsimp only
      have hstarts := Folding.startsWith_iff.mp (Bool.and_eq_true_iff.mp htakes).2
      have hp := List.prefix_iff_eq_take.mp hstarts
      rw [Folding.length_view] at hp
      rw [List.flatten_cons, Folding.view_append]
      conv => rhs; rw [← List.take_append_drop p.length (f.view ignoreCase rest)]
      rw [← hp, ← Folding.view_drop]
      apply (List.prefix_append_right_inj _).mpr
      apply ih
    . rw [Folding.view_eq_map]
      exact List.nil_prefix

structure Placed (f : Folding) (ignoreCase : Bool) (hs : List Hump) (ps : List Text)
    (placements : List Placement) : Prop where
  onFirst : placements.map (·.hump) <+: hs
  begins : ∀ p ∈ placements, f.view ignoreCase p.taken.flatten <+: f.view ignoreCase p.hump.text
  takesAll : (placements.map (·.taken)).flatten = ps

theorem place_placed {hs : List Hump} {ps : List Text} {placements : List Placement}
    (h : place f ignoreCase hs ps = some placements) : Placed f ignoreCase hs ps placements := by
  induction hs generalizing ps placements with
  | nil =>
    cases ps with
    | nil =>
      cases h
      exact ⟨List.nil_prefix, by simp, rfl⟩
    | cons p ps => cases h
  | cons hump hs ih =>
    cases ps with
    | nil =>
      cases h
      exact ⟨List.nil_prefix, by simp, rfl⟩
    | cons p ps =>
      unfold place at h
      dsimp only at h
      rcases Option.map_eq_some_iff.mp h with ⟨others, hothers, rfl⟩
      have hplaced := ih hothers
      constructor
      . rw [List.map_cons]
        exact (List.prefix_cons_inj hump).mpr hplaced.onFirst
      . intro q hq
        rcases List.mem_cons.mp hq with rfl | hq
        . exact absorb_prefix hump.text none (p :: ps)
        . exact hplaced.begins q hq
      . rw [List.map_cons, List.flatten_cons, hplaced.takesAll]
        exact absorb_append hump.text none (p :: ps)

def pieceOf (f : Folding) (ignoreCase : Bool) (p : Placement) : LaidPiece :=
  ⟨p.hump.span, f.view ignoreCase p.taken.flatten⟩

theorem map_ofSpan_span {candidate : Text} {humps : Spans} (h : Spans.InOrder candidate humps)
    : (humps.map (Hump.ofSpan candidate)).map Hump.span = humps := by
  rw [List.map_map]
  conv => rhs; rw [← List.map_id humps]
  apply List.map_congr_left
  intro s hs
  exact h.span_eq hs

theorem Placed.laid {candidate : Text} {humps : Spans} (hhumps : Spans.InOrder candidate humps)
    {ps : List Text} {placements : List Placement}
    (h : Placed f ignoreCase (humps.map (Hump.ofSpan candidate)) ps placements)
    : Laid f ignoreCase candidate (placements.map (pieceOf f ignoreCase)) := by
  constructor
  . rw [List.map_map]
    apply hhumps.sublist
    have hfirst := h.onFirst.sublist.map Hump.span
    rw [map_ofSpan_span hhumps, List.map_map] at hfirst
    exact hfirst
  . intro piece hpiece
    rcases List.mem_map.mp hpiece with ⟨p, hp, rfl⟩
    have hmem := h.onFirst.subset (List.mem_map_of_mem hp)
    rcases List.mem_map.mp hmem with ⟨s, hs, heq⟩
    have hbegins := h.begins p hp
    unfold pieceOf
    rw [← heq] at hbegins ⊢
    have hspan : (Hump.ofSpan candidate s).span = s := hhumps.span_eq hs
    rw [hspan]
    exact hbegins

-- Humps that took nothing cover nothing, so it does not matter that they are left out.
theorem covers_summarize (humpCount : Nat) (placements : List Placement) {i : Nat}
    : (summarize humpCount placements).spans.Covers i ↔ Spans.Covers (placements.map (·.span)) i := by
  show Spans.Covers ((placements.filter fun p => !p.isEmpty).map (·.span)) i ↔ _
  induction placements with
  | nil => rfl
  | cons p ps ih =>
    rw [List.map_cons, Spans.covers_cons]
    cases hempty : p.isEmpty with
    | false => simp [hempty, ih]
    | true =>
      have hnone : ¬ p.span.Covers i := by
        have := List.isEmpty_iff.mp hempty
        simp only [Placement.span, this, Span.covers_iff, List.flatten_nil, List.length_nil]
        omega
      simp [hempty, hnone, ih]

theorem map_span_pieceOf (f : Folding) (ignoreCase : Bool) (placements : List Placement)
    : (placements.map (pieceOf f ignoreCase)).map (·.span) = placements.map (·.span) := by
  rw [List.map_map]
  apply List.map_congr_left
  intro p _
  simp [pieceOf, LaidPiece.span, Placement.span, Hump.span]

theorem filter_ne_nil {candidate : Text} {humps : Spans} {chunk : Chunk} {a : Alignment}
    (h : align f ignoreCase candidate humps chunk = some a)
    : chunk.text.filter Text.isWordChar ≠ [] := by
  unfold align at h
  split at h
  . cases h
  . next hhumps =>
    apply chunk.filter_ne_nil
    intro hnil
    exact hhumps (List.isEmpty_iff.mpr hnil)

theorem align_spells {candidate : Text} {humps : Spans} (hhumps : Spans.InOrder candidate humps)
    {chunk : Chunk} {a : Alignment} (h : align f ignoreCase candidate humps chunk = some a)
    : a.Spells f ignoreCase candidate (chunk.text.filter Text.isWordChar) := by
  unfold align at h
  split at h
  . cases h
  . rcases Option.map_eq_some_iff.mp h with ⟨placements, hplace, rfl⟩
    have hplaced := place_placed hplace
    have hlaid := hplaced.laid hhumps
    have hcovers : ∀ i, (summarize humps.length placements).spans.Covers i
        ↔ Spans.Covers ((placements.map (pieceOf f ignoreCase)).map (·.span)) i := by
      intro i
      rw [map_span_pieceOf, covers_summarize]
    constructor
    . intro i hi
      exact hlaid.lt_length_of_covers ((hcovers i).mp hi)
    . rw [Spans.read_congr hcovers, hlaid.view_read, ← Chunk.flatten_humpTexts, ← hplaced.takesAll,
        List.flatten_flatten, Folding.view_flatten, List.map_map, List.map_map, List.map_map]
      rfl

end Greedy
end IdentSearch
