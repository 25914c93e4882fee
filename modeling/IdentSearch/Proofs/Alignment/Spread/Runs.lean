import Mathlib.Data.List.Infix
import IdentSearch.Proofs.Alignment.Spread.Laid

/-!
A pattern that the words of a candidate hold as it stands, from the start of a hump on, can be spread over the
humps that it runs through.
-/

namespace IdentSearch.Spread

open Breaking

variable {f : Folding} {candidate pattern : Text} {texts : List Text} {spans : Spans} {s : Span} {i n : Nat}

structure Holds (f : Folding) (candidate pattern : Text) (i : Nat) : Prop where
  folds : pattern <+: (f.fold candidate).drop i
  words : ∀ j, i ≤ j → j < i + pattern.length → IsWordAt candidate j

theorem Holds.drop (h : Holds f candidate pattern i) (n : Nat)
    : Holds f candidate (pattern.drop n) (i + n) := by
  constructor
  . rw [← List.drop_drop]
    exact List.IsPrefix.drop h.folds n
  . intro j hge hlt
    rw [List.length_drop] at hlt
    apply h.words
    . omega
    . omega

theorem Holds.begins (h : Holds f candidate pattern s.start)
    (htext : texts[n]? = some (f.fold (s.textOf candidate))) (hstop : s.stop ≤ candidate.length)
    {size : Nat} (hpos : 1 ≤ size) (hle : size ≤ s.length) (hsize : size ≤ pattern.length)
    : Begins texts pattern ⟨n, size⟩ (pattern.drop size) := by
  have hfolded : f.fold (s.textOf candidate) = ((f.fold candidate).drop s.start).take s.length := by
    rw [← Folding.view_true, Span.textOf, Folding.view_slice, Folding.view_true, Text.slice]
  have hlength : s.length ≤ (f.fold (s.textOf candidate)).length := by
    rw [← Folding.view_true, Folding.length_view, Span.textOf, Text.length_slice]
    simp only [Span.stop] at hstop
    omega
  rw [begins_iff htext]
  refine ⟨hpos, by omega, hsize, ?_, rfl⟩
  rw [hfolded, List.take_take, Nat.min_eq_left hle, List.prefix_iff_eq_take.mp h.folds, List.take_take,
    Nat.min_eq_left hsize]

-- The pattern ends in the first hump, or goes on in the next one, which follows without a gap.
theorem Holds.opens {b : Breaking} {pattern : Text} {s : Span} {ss : Spans} {i n : Nat}
    (htiles : Tiles b candidate i (s :: ss))
    (htexts : texts.drop n = (s :: ss).map fun u => f.fold (u.textOf candidate)) (hne : pattern ≠ [])
    (h : Holds f candidate pattern s.start) : Opens texts pattern .contiguous n := by
  have hpos := htiles.positive List.mem_cons_self
  have hstop := htiles.stop_le_length List.mem_cons_self
  rcases getElem?_of_drop htexts with ⟨htext, htexts'⟩
  apply opens_iff.mpr
  cases Nat.lt_or_ge s.length pattern.length with
  | inr hge =>
    refine ⟨pattern.length, [], ?_, .inl ⟨rfl, Shape.noConfusion⟩⟩
    have hbegins := h.begins htext hstop (List.length_pos_iff.mpr hne) hge (Nat.le_refl _)
    rwa [List.drop_length] at hbegins
  | inl hlt =>
    have hword : IsWordAt candidate s.stop := by
      apply h.words
      . simp [Span.stop]
      . simp only [Span.stop]
        omega
    cases htiles with
    | cons _ _ _ _ _ _ htail =>
      rcases htail.exists_head hword with ⟨u, us, rfl, hstart⟩
      have hbegins := h.begins htext hstop hpos (Nat.le_refl _) (Nat.le_of_lt hlt)
      refine ⟨s.length, pattern.drop s.length, hbegins, .inr ⟨n + 1, Nat.lt_succ_self n, fun _ => rfl, ?_⟩⟩
      have hrest := h.drop s.length
      apply Holds.opens htail
      . exact htexts'
      . rw [← List.length_pos_iff, List.length_drop]
        omega
      . rwa [hstart]
termination_by ss.length

theorem Holds.exists_opens {b : Breaking} (htiles : Tiles b candidate i spans)
    (htexts : texts.drop n = spans.map fun u => f.fold (u.textOf candidate)) (hne : pattern ≠ [])
    (hs : s ∈ spans) (h : Holds f candidate pattern s.start)
    : ∃ k, Opens texts pattern .contiguous k := by
  induction spans generalizing i n with
  | nil => cases hs
  | cons u us ih =>
    rcases List.mem_cons.mp hs with rfl | hs
    . exact ⟨n, h.opens htiles htexts hne⟩
    . cases htiles with
      | cons _ _ _ _ _ _ htail => exact ih htail (getElem?_of_drop htexts).2 hs

theorem isSome_align_of_holds {chunk : Chunk} (htext : chunk.text ≠ []) (hs : s ∈ wordHumps candidate)
    (h : Holds f candidate (f.fold chunk.text) s.start)
    : (align f candidate (wordHumps candidate) chunk).isSome = true := by
  have hne : f.fold chunk.text ≠ [] := by
    rw [← List.length_pos_iff, ← Folding.view_true, Folding.length_view]
    exact List.length_pos_iff.mpr htext
  rcases align_spec f candidate (wordHumps candidate) chunk with ⟨_, hnot⟩ | ⟨_, _, hsome, _⟩
  . rw [Slot.textsOf_ofHumps] at hnot
    have htiles := humps_tiles .words candidate
    rcases h.exists_opens (n := 0) htiles List.drop_zero hne hs with ⟨k, u, us, _, hspells, _⟩
    exact absurd hspells (hnot (u :: us))
  . rw [hsome]
    rfl

theorem exists_start_of_align {humps : Spans} {chunk : Chunk} {a : Alignment}
    (h : align f candidate humps chunk = some a) (hs : s ∈ a.spans) : ∃ u ∈ humps, u.start = s.start := by
  rcases align_spec f candidate humps chunk with ⟨hnone, _⟩ | ⟨_, shares, hsome, hfound⟩
  . rw [hnone] at h
    cases h
  . rw [hsome] at h
    cases h
    rcases List.mem_map.mp hs with ⟨p, hp, rfl⟩
    rcases (Slot.ofHumps.go_getElem? f candidate humps (hfound.traced.slots_mem p hp)).2.2
      with ⟨u, hu, hstart, _⟩
    exact ⟨u, List.mem_of_getElem? hu, hstart.symm⟩

end IdentSearch.Spread
