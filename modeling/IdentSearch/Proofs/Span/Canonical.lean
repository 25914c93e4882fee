import IdentSearch.Proofs.Span.Normal

/-!
Normal lists of spans are the canonical form of sets of positions: between two of their spans lies a position
that none of them covers, so that each set has only one such list, and normalizing finds it.
-/

namespace IdentSearch.Spans

variable {spans xs ys : Spans} {s : Span}

theorem IsNormal.not_covers_stop_of_mem (h : IsNormal spans) (hs : s ∈ spans) : ¬ Covers spans s.stop := by
  induction spans with
  | nil => cases hs
  | cons t ts ih =>
    cases hs with
    | head => exact h.not_covers_stop
    | tail _ hs =>
      intro hcov
      rw [covers_cons] at hcov
      cases hcov with
      | inl hcov =>
        -- The first span has ended before the others start.
        have hlt := (List.pairwise_cons.mp h.separated).1 s hs
        simp only [Span.Covers, Span.stop] at hcov hlt
        omega
      | inr hcov =>
        apply ih h.tail hs
        exact hcov

theorem IsNormal.increasing (h : IsNormal spans) : spans.Pairwise fun s t => s.start < t.start := by
  apply h.separated.imp
  intro s t hlt
  simp only [Span.stop] at hlt
  omega

theorem IsNormal.gaps (h : IsNormal spans)
    : spans.Pairwise fun s t => s.start < t.start ∧ ∃ i, s.stop ≤ i ∧ i < t.start ∧ ¬ Covers spans i := by
  apply (h.increasing.and h.separated).imp_of_mem
  rintro s t hs _ ⟨hstart, hlt⟩
  refine ⟨hstart, s.stop, Nat.le_refl _, hlt, ?_⟩
  apply h.not_covers_stop_of_mem hs

theorem normalize_eq_iff : normalize xs = ys ↔ IsNormal ys ∧ ∀ i, Covers ys i ↔ Covers xs i := by
  constructor
  . rintro rfl
    exact ⟨normalize_isNormal xs, fun _ => covers_normalize⟩
  . rintro ⟨hnormal, hcovers⟩
    rw [← normalize_of_isNormal hnormal]
    apply normalize_eq_normalize
    simp [hcovers]

theorem normalize_eq_normalize_iff : normalize xs = normalize ys ↔ ∀ i, Covers xs i ↔ Covers ys i := by
  rw [normalize_eq_iff]
  simp only [normalize_isNormal, covers_normalize, true_and]
  exact forall_congr' fun i => Iff.comm

theorem normalize_canonical (spans : Spans)
    : (∀ s ∈ normalize spans, 0 < s.length) ∧
        ((normalize spans).Pairwise fun s t =>
          s.start < t.start ∧ ∃ i, s.stop ≤ i ∧ i < t.start ∧ ¬ Covers (normalize spans) i) ∧
        (∀ i, Covers (normalize spans) i ↔ Covers spans i) ∧
        (∀ others, normalize spans = normalize others ↔ ∀ i, Covers spans i ↔ Covers others i) ∧
        normalize (normalize spans) = normalize spans ∧
        ∀ n : Nat, ∃ moved, spans.mapM (·.move (n : Int)) = .ok moved ∧
          (normalize spans).mapM (·.move (n : Int)) = .ok (normalize moved) := by
  have hnormal := normalize_isNormal spans
  refine ⟨hnormal.positive, hnormal.gaps, ?_, ?_, ?_, ?_⟩
  . intro i
    apply covers_normalize
  . intro others
    apply normalize_eq_normalize_iff
  . apply normalize_of_isNormal hnormal
  . intro n
    refine ⟨spans.map (·.shift n), mapM_move_natCast n spans, ?_⟩
    rw [mapM_move_natCast, normalize_map_shift]

-- Spans out of order, of which some overlap, touch, repeat, lie in another or are empty.
example : normalize [⟨5, 2⟩, ⟨0, 3⟩, ⟨9, 0⟩, ⟨3, 1⟩, ⟨5, 2⟩, ⟨6, 3⟩, ⟨1, 1⟩] = [⟨0, 4⟩, ⟨5, 4⟩] := by
  decide

end IdentSearch.Spans
