import Mathlib.Tactic.Common
import IdentSearch.Span

/-!
The normal form of a list of spans. It covers the positions that the list covers, and there is only one
normal list for a set of positions, so equations between normal forms follow from what they cover.
-/

namespace IdentSearch

namespace Span

theorem covers_iff {s : Span} {i : Nat} : s.Covers i ↔ s.start ≤ i ∧ i < s.start + s.length := by
  rfl

@[simp]
theorem stop_shift (n : Nat) (s : Span) : (s.shift n).stop = s.stop + n := by
  simp only [stop, shift]
  omega

theorem covers_shift {n i : Nat} {s : Span} : (s.shift n).Covers i ↔ n ≤ i ∧ s.Covers (i - n) := by
  simp only [covers_iff, shift]
  omega

end Span

namespace Spans

structure IsNormal (spans : Spans) : Prop where
  positive : ∀ s ∈ spans, 0 < s.length
  separated : spans.Pairwise fun s t => s.stop < t.start

@[simp]
theorem not_covers_nil (i : Nat) : ¬ Covers [] i := by
  simp [Covers]

@[simp]
theorem covers_cons {s : Span} {ss : Spans} {i : Nat}
    : Covers (s :: ss) i ↔ s.Covers i ∨ Covers ss i := by
  simp [Covers]

@[simp]
theorem covers_append {xs ys : Spans} {i : Nat}
    : Covers (xs ++ ys) i ↔ Covers xs i ∨ Covers ys i := by
  simp only [Covers, List.mem_append, or_and_right, exists_or]

theorem covers_map_shift {n i : Nat} {spans : Spans}
    : Covers (spans.map (·.shift n)) i ↔ n ≤ i ∧ Covers spans (i - n) := by
  induction spans with
  | nil => simp
  | cons s ss ih =>
    rw [List.map_cons, covers_cons, covers_cons, Span.covers_shift, ih]
    tauto

theorem covers_filter_nonempty (spans : Spans) {i : Nat}
    : Covers (spans.filter fun s => !s.isEmpty) i ↔ Covers spans i := by
  simp only [Covers, List.mem_filter, Span.isEmpty]
  constructor
  . rintro ⟨s, ⟨hs, _⟩, hi⟩
    exact ⟨s, hs, hi⟩
  . rintro ⟨s, hs, hi⟩
    refine ⟨s, ⟨hs, ?_⟩, hi⟩
    rw [Span.covers_iff] at hi
    have : s.length ≠ 0 := by omega
    simp [this]

/-! ### Sorting -/

theorem insert_perm (s : Span) (ss : Spans) : (insert s ss).Perm (s :: ss) := by
  induction ss with
  | nil => exact List.Perm.refl _
  | cons t ts ih =>
    unfold insert
    split
    . exact (ih.cons t).trans (List.Perm.swap s t ts)
    . exact List.Perm.refl _

theorem sort_perm (ss : Spans) : (sort ss).Perm ss := by
  induction ss with
  | nil => exact List.Perm.refl _
  | cons s ss ih => exact (insert_perm s (sort ss)).trans (ih.cons s)

theorem covers_of_perm {xs ys : Spans} (h : xs.Perm ys) {i : Nat} : Covers xs i ↔ Covers ys i := by
  simp only [Covers, h.mem_iff]

theorem insert_sorted {s : Span} {ss : Spans} (h : ss.Pairwise fun s t => s.start ≤ t.start)
    : (insert s ss).Pairwise fun s t => s.start ≤ t.start := by
  induction ss with
  | nil => simp [insert]
  | cons t ts ih =>
    have ht := List.pairwise_cons.mp h
    unfold insert
    split
    . next hlt =>
      apply List.pairwise_cons.mpr
      refine ⟨?_, ih ht.2⟩
      intro u hu
      simp only [Span.precedes, decide_eq_true_eq] at hlt
      rcases List.mem_cons.mp ((insert_perm s ts).mem_iff.mp hu) with rfl | hu
      . omega
      . exact ht.1 u hu
    . next hlt =>
      apply List.pairwise_cons.mpr
      refine ⟨?_, h⟩
      intro u hu
      simp only [Span.precedes, decide_eq_true_eq] at hlt
      rcases List.mem_cons.mp hu with rfl | hu
      . omega
      . have := ht.1 u hu
        omega

theorem sort_sorted (ss : Spans) : (sort ss).Pairwise fun s t => s.start ≤ t.start := by
  induction ss with
  | nil => exact List.Pairwise.nil
  | cons s ss ih => exact insert_sorted ih

/-! ### Joining neighbours -/

theorem coalesce_start_le {current : Span} {ss : Spans}
    (h : (current :: ss).Pairwise fun s t => s.start ≤ t.start)
    : ∀ s ∈ coalesce current ss, current.start ≤ s.start := by
  induction ss generalizing current with
  | nil => simp [coalesce]
  | cons t ts ih =>
    have hc := List.pairwise_cons.mp h
    have ht := List.pairwise_cons.mp hc.2
    unfold coalesce
    split
    . apply ih
      exact List.pairwise_cons.mpr ⟨fun u hu => hc.1 u (List.mem_cons_of_mem t hu), ht.2⟩
    . intro s hs
      rcases List.mem_cons.mp hs with rfl | hs
      . exact Nat.le_refl _
      . exact Nat.le_trans (hc.1 t List.mem_cons_self) (ih hc.2 s hs)

theorem covers_coalesce {current : Span} {ss : Spans} {i : Nat}
    (h : (current :: ss).Pairwise fun s t => s.start ≤ t.start)
    : Covers (coalesce current ss) i ↔ current.Covers i ∨ Covers ss i := by
  induction ss generalizing current with
  | nil => simp [coalesce]
  | cons t ts ih =>
    have hc := List.pairwise_cons.mp h
    have ht := List.pairwise_cons.mp hc.2
    have hle := hc.1 t List.mem_cons_self
    unfold coalesce
    split
    . next htouch =>
      rw [ih, covers_cons, ← or_assoc]
      . apply or_congr_left
        simp only [Span.covers_iff, Span.stop] at htouch ⊢
        omega
      . exact List.pairwise_cons.mpr ⟨fun u hu => hc.1 u (List.mem_cons_of_mem t hu), ht.2⟩
    . rw [covers_cons, covers_cons, ih hc.2]

theorem coalesce_isNormal {current : Span} {ss : Spans}
    (h : (current :: ss).Pairwise fun s t => s.start ≤ t.start)
    (hpos : ∀ s ∈ current :: ss, 0 < s.length) : IsNormal (coalesce current ss) := by
  induction ss generalizing current with
  | nil => exact ⟨by simpa [coalesce] using hpos, by simp [coalesce]⟩
  | cons t ts ih =>
    have hc := List.pairwise_cons.mp h
    have ht := List.pairwise_cons.mp hc.2
    have hcur := hpos current List.mem_cons_self
    unfold coalesce
    split
    . apply ih
      . exact List.pairwise_cons.mpr ⟨fun u hu => hc.1 u (List.mem_cons_of_mem t hu), ht.2⟩
      . intro s hs
        rcases List.mem_cons.mp hs with rfl | hs
        . simp only [Span.stop]
          omega
        . exact hpos s (by simp [hs])
    . next hgap =>
      have hrest := ih hc.2 fun s hs => hpos s (List.mem_cons_of_mem _ hs)
      constructor
      . intro s hs
        rcases List.mem_cons.mp hs with rfl | hs
        . exact hcur
        . exact hrest.positive s hs
      . apply List.pairwise_cons.mpr
        refine ⟨?_, hrest.separated⟩
        intro s hs
        have := coalesce_start_le hc.2 s hs
        omega

theorem exists_start_of_mem_coalesce {current s : Span} {ss : Spans} (h : s ∈ coalesce current ss)
    : ∃ u ∈ current :: ss, u.start = s.start := by
  induction ss generalizing current with
  | nil =>
    rw [List.mem_singleton.mp h]
    exact ⟨current, List.mem_cons_self, rfl⟩
  | cons t ts ih =>
    unfold coalesce at h
    split at h
    . rcases ih h with ⟨u, hu, hstart⟩
      rcases List.mem_cons.mp hu with rfl | hu
      . exact ⟨current, List.mem_cons_self, hstart⟩
      . exact ⟨u, by simp [hu], hstart⟩
    . rcases List.mem_cons.mp h with rfl | h
      . exact ⟨s, List.mem_cons_self, rfl⟩
      . rcases ih h with ⟨u, hu, hstart⟩
        exact ⟨u, List.mem_cons_of_mem current hu, hstart⟩

/-! ### The normal form -/

theorem exists_start_of_mem_normalize {spans : Spans} {s : Span} (h : s ∈ normalize spans)
    : ∃ u ∈ spans, u.start = s.start := by
  unfold normalize at h
  have hperm := sort_perm (spans.filter fun s => !s.isEmpty)
  split at h
  . cases h
  . next hs =>
    rcases exists_start_of_mem_coalesce h with ⟨u, hu, hstart⟩
    rw [← hs, hperm.mem_iff] at hu
    exact ⟨u, (List.mem_filter.mp hu).1, hstart⟩

theorem covers_normalize {spans : Spans} {i : Nat} : Covers (normalize spans) i ↔ Covers spans i := by
  rw [← covers_filter_nonempty spans,
    ← covers_of_perm (sort_perm (spans.filter fun s => !s.isEmpty))]
  unfold normalize
  have hsorted := sort_sorted (spans.filter fun s => !s.isEmpty)
  cases hs : sort (spans.filter fun s => !s.isEmpty) with
  | nil => rfl
  | cons s ss =>
    rw [hs] at hsorted
    rw [covers_cons]
    exact covers_coalesce hsorted

theorem normalize_isNormal (spans : Spans) : IsNormal (normalize spans) := by
  unfold normalize
  have hsorted := sort_sorted (spans.filter fun s => !s.isEmpty)
  have hperm := sort_perm (spans.filter fun s => !s.isEmpty)
  cases hs : sort (spans.filter fun s => !s.isEmpty) with
  | nil => exact ⟨by simp, List.Pairwise.nil⟩
  | cons s ss =>
    rw [hs] at hsorted hperm
    apply coalesce_isNormal hsorted
    intro u hu
    have hu := List.mem_filter.mp (hperm.mem_iff.mp hu)
    simp only [Span.isEmpty, Bool.not_eq_true', beq_eq_false_iff_ne] at hu
    omega

theorem IsNormal.tail {s : Span} {ss : Spans} (h : IsNormal (s :: ss)) : IsNormal ss :=
  ⟨fun t ht => h.positive t (List.mem_cons_of_mem s ht), (List.pairwise_cons.mp h.separated).2⟩

theorem IsNormal.lt_of_covers_tail {s : Span} {ss : Spans} (h : IsNormal (s :: ss)) {i : Nat}
    (hi : Covers ss i) : s.stop < i := by
  rcases hi with ⟨t, ht, hcov⟩
  have := (List.pairwise_cons.mp h.separated).1 t ht
  exact Nat.lt_of_lt_of_le this hcov.1

theorem IsNormal.covers_tail_iff {s : Span} {ss : Spans} (h : IsNormal (s :: ss)) {i : Nat}
    : Covers ss i ↔ Covers (s :: ss) i ∧ s.stop < i := by
  rw [covers_cons]
  constructor
  . intro hi
    exact ⟨.inr hi, h.lt_of_covers_tail hi⟩
  . rintro ⟨hi | hi, hlt⟩
    . exact absurd hi.2 (by omega)
    . exact hi

theorem IsNormal.start_le {s : Span} {ss : Spans} (h : IsNormal (s :: ss)) {i : Nat}
    (hi : Covers (s :: ss) i) : s.start ≤ i := by
  rcases covers_cons.mp hi with hi | hi
  . exact hi.1
  . have := h.lt_of_covers_tail hi
    simp only [Span.stop] at this
    omega

theorem IsNormal.covers_start {s : Span} {ss : Spans} (h : IsNormal (s :: ss))
    : Covers (s :: ss) s.start := by
  have := h.positive s List.mem_cons_self
  exact covers_cons.mpr (.inl ⟨Nat.le_refl _, by simp only [Span.stop]; omega⟩)

theorem IsNormal.not_covers_stop {s : Span} {ss : Spans} (h : IsNormal (s :: ss))
    : ¬ Covers (s :: ss) s.stop := by
  intro hi
  rcases covers_cons.mp hi with hi | hi
  . exact Nat.lt_irrefl _ hi.2
  . exact Nat.lt_irrefl _ (h.lt_of_covers_tail hi)

-- The first span of a normal list begins at the least covered position and ends before the least
-- uncovered one behind it, so that it can be read off the positions alone.
theorem IsNormal.head_eq {s t : Span} {ss ts : Spans} (hs : IsNormal (s :: ss))
    (ht : IsNormal (t :: ts)) (h : ∀ i, Covers (s :: ss) i ↔ Covers (t :: ts) i) : s = t := by
  have hstart : s.start = t.start := by
    apply Nat.le_antisymm
    . exact hs.start_le ((h _).mpr ht.covers_start)
    . exact ht.start_le ((h _).mp hs.covers_start)
  have hspos := hs.positive s List.mem_cons_self
  have htpos := ht.positive t List.mem_cons_self
  have hst : ¬ s.stop < t.stop := by
    intro hlt
    apply hs.not_covers_stop
    rw [h, covers_cons]
    exact .inl ⟨by simp only [Span.stop]; omega, hlt⟩
  have hts : ¬ t.stop < s.stop := by
    intro hlt
    apply ht.not_covers_stop
    rw [← h, covers_cons]
    exact .inl ⟨by simp only [Span.stop]; omega, hlt⟩
  cases s
  cases t
  simp only [Span.stop] at hst hts hstart
  simp only [Span.mk.injEq]
  omega

theorem eq_of_covers_iff {xs ys : Spans} (hx : IsNormal xs) (hy : IsNormal ys)
    (h : ∀ i, Covers xs i ↔ Covers ys i) : xs = ys := by
  induction xs generalizing ys with
  | nil =>
    cases ys with
    | nil => rfl
    | cons t ts => exact absurd ((h _).mpr hy.covers_start) (not_covers_nil _)
  | cons s ss ih =>
    cases ys with
    | nil => exact absurd ((h _).mp hx.covers_start) (not_covers_nil _)
    | cons t ts =>
      have heq := hx.head_eq hy h
      subst heq
      rw [ih hx.tail hy.tail]
      intro i
      rw [hx.covers_tail_iff, hy.covers_tail_iff, h]

theorem normalize_eq_normalize {xs ys : Spans} (h : ∀ i, Covers xs i ↔ Covers ys i)
    : normalize xs = normalize ys := by
  apply eq_of_covers_iff (normalize_isNormal xs) (normalize_isNormal ys)
  intro i
  rw [covers_normalize, covers_normalize, h]

theorem normalize_of_isNormal {spans : Spans} (h : IsNormal spans) : normalize spans = spans := by
  apply eq_of_covers_iff (normalize_isNormal spans) h
  intro i
  rw [covers_normalize]

theorem IsNormal.map_shift {spans : Spans} (h : IsNormal spans) (n : Nat)
    : IsNormal (spans.map (·.shift n)) := by
  constructor
  . intro s hs
    rcases List.mem_map.mp hs with ⟨t, ht, rfl⟩
    exact h.positive t ht
  . apply List.pairwise_map.mpr
    apply h.separated.imp
    intro s t hst
    simp only [Span.stop_shift, Span.shift_start]
    omega

theorem normalize_map_shift (n : Nat) (spans : Spans)
    : normalize (spans.map (·.shift n)) = (normalize spans).map (·.shift n) := by
  apply eq_of_covers_iff (normalize_isNormal _) ((normalize_isNormal spans).map_shift n)
  intro i
  rw [covers_normalize, covers_map_shift, covers_map_shift, covers_normalize]

-- The first and the last position of a span that is not empty decide where the span lies.
theorem IsNormal.inside {spans : Spans} (h : IsNormal spans) {first stop : Nat}
    (hcovers : ∀ i, Covers spans i → first ≤ i ∧ i < stop)
    : ∀ s ∈ spans, first ≤ s.start ∧ s.stop ≤ stop := by
  intro s hs
  have hpos := h.positive s hs
  have hfirst := hcovers s.start ⟨s, hs, by simp only [Span.covers_iff]; omega⟩
  have hlast := hcovers (s.start + s.length - 1) ⟨s, hs, by simp only [Span.covers_iff]; omega⟩
  simp only [Span.stop]
  omega

theorem singleton_isNormal {s : Span} (h : 0 < s.length) : IsNormal [s] :=
  ⟨by simpa using h, by simp⟩

theorem isNormal_nil : IsNormal [] :=
  ⟨by simp, List.Pairwise.nil⟩

end Spans
end IdentSearch
