import Mathlib.Data.List.Forall2
import IdentSearch.Match
import IdentSearch.Proofs.Span.Normal

/-!
What merging makes of matches. The result does not depend on their order, and merging commutes with moving
all of them.
-/

namespace IdentSearch

namespace Match

def shift (n : Nat) (r : Match) : Match := r.withSpans (r.spans.map (·.shift n))

-- The match is made up of others: as weak as the weakest of them, and lying where they lie.
structure Combines (ms : List Match) (r : Match) : Prop where
  kind_mem : ∃ m ∈ ms, m.kind = r.kind
  kind_le : ∀ m ∈ ms, r.kind.rank ≤ m.kind.rank
  stripped : r.punctuationStripped = ms.any (·.punctuationStripped)
  caseSensitive : r.caseSensitive = ms.all (·.caseSensitive)
  spans : r.spans = Spans.normalize (ms.flatMap (·.spans))

variable {ms done : List Match} {m r : Match}

theorem combines_singleton (h : m.spans.IsNormal) : Combines [m] m := by
  constructor
  . exact ⟨m, List.mem_singleton_self m, rfl⟩
  . intro n hn
    cases List.mem_singleton.mp hn
    exact Nat.le_refl _
  . simp
  . simp
  . rw [List.flatMap_singleton, Spans.normalize_of_isNormal h]

theorem Combines.merge (h : Combines done r) (m : Match) : Combines (done ++ [m]) (r.merge m) := by
  have hrank : (r.merge m).kind.rank = min r.kind.rank m.kind.rank := Kind.rank_weaker r.kind m.kind
  constructor
  . rcases h.kind_mem with ⟨n, hn, hkind⟩
    cases Nat.le_total r.kind.rank m.kind.rank with
    | inl hle =>
      refine ⟨n, List.mem_append_left _ hn, Kind.rank_injective ?_⟩
      rw [hrank, hkind, Nat.min_eq_left hle]
    | inr hle =>
      refine ⟨m, List.mem_append_right _ (List.mem_singleton_self m), Kind.rank_injective ?_⟩
      rw [hrank, Nat.min_eq_right hle]
  . intro n hn
    rw [hrank]
    rcases List.mem_append.mp hn with hn | hn
    . have := h.kind_le n hn
      omega
    . rw [List.mem_singleton.mp hn]
      omega
  . rw [List.any_append, ← h.stripped]
    simp [Match.merge]
  . rw [List.all_append, ← h.caseSensitive]
    simp [Match.merge]
  . show Spans.normalize (r.spans ++ m.spans) = _
    apply Spans.normalize_eq_normalize
    intro i
    rw [List.flatMap_append, List.flatMap_singleton, Spans.covers_append, Spans.covers_append, h.spans,
      Spans.covers_normalize]

theorem Combines.foldl (h : Combines done r) : Combines (done ++ ms) (ms.foldl Match.merge r) := by
  induction ms generalizing done r with
  | nil =>
    rw [List.append_nil]
    exact h
  | cons m ms ih =>
    rw [List.append_cons]
    exact ih (h.merge m)

theorem combines_of_mergeAll (hnormal : ∀ m ∈ ms, m.spans.IsNormal) (h : mergeAll ms = some r)
    : Combines ms r := by
  cases ms with
  | nil => cases h
  | cons m ms =>
    cases h
    have hfirst := combines_singleton (hnormal m List.mem_cons_self)
    exact hfirst.foldl

theorem isSome_mergeAll (ms : List Match) : (mergeAll ms).isSome = true ↔ ms ≠ [] := by
  cases ms with
  | nil => simp [mergeAll]
  | cons m ms => simp [mergeAll]

namespace Combines

theorem perm {others : List Match} (h : Combines ms r) (hperm : ms.Perm others) : Combines others r := by
  constructor
  . rcases h.kind_mem with ⟨m, hm, hkind⟩
    exact ⟨m, hperm.subset hm, hkind⟩
  . intro m hm
    apply h.kind_le
    exact hperm.symm.subset hm
  . rw [h.stripped, Bool.eq_iff_iff, List.any_eq_true, List.any_eq_true]
    simp only [hperm.mem_iff]
  . rw [h.caseSensitive, Bool.eq_iff_iff, List.all_eq_true, List.all_eq_true]
    simp only [hperm.mem_iff]
  . rw [h.spans]
    apply Spans.normalize_eq_normalize
    intro i
    apply Spans.covers_of_perm
    exact hperm.flatMap_right _

theorem isNormal (h : Combines ms r) : r.spans.IsNormal := by
  rw [h.spans]
  exact Spans.normalize_isNormal _

theorem covers_iff (h : Combines ms r) {i : Nat} : r.spans.Covers i ↔ ∃ m ∈ ms, m.spans.Covers i := by
  rw [h.spans, Spans.covers_normalize]
  constructor
  . rintro ⟨s, hs, hcov⟩
    rcases List.mem_flatMap.mp hs with ⟨m, hm, hs⟩
    exact ⟨m, hm, s, hs, hcov⟩
  . rintro ⟨m, hm, s, hs, hcov⟩
    exact ⟨s, List.mem_flatMap.mpr ⟨m, hm, hs⟩, hcov⟩

end Combines

structure LiesIn (start length : Nat) (r : Match) : Prop where
  isNormal : r.spans.IsNormal
  covers : ∀ i, r.spans.Covers i → start ≤ i ∧ i < start + length

theorem covers_merge {r m : Match} {i : Nat}
    : (r.merge m).spans.Covers i ↔ r.spans.Covers i ∨ m.spans.Covers i := by
  show Spans.Covers (Spans.normalize (r.spans ++ m.spans)) i ↔ _
  rw [Spans.covers_normalize, Spans.covers_append]

theorem LiesIn.merge {start length : Nat} {r m : Match} (hr : r.LiesIn start length)
    (hm : m.LiesIn start length) : (r.merge m).LiesIn start length := by
  constructor
  . exact Spans.normalize_isNormal _
  . intro i hi
    rcases covers_merge.mp hi with hcov | hcov
    . exact hr.covers i hcov
    . exact hm.covers i hcov

/-! ### Changing -/

theorem mergeAll_map {change : Match → Match}
    (hmerge : ∀ r m, (change r).merge (change m) = change (r.merge m)) (ms : List Match)
    : mergeAll (ms.map change) = (mergeAll ms).map change := by
  cases ms with
  | nil => rfl
  | cons m ms =>
    show some _ = some _
    congr 1
    induction ms generalizing m with
    | nil => rfl
    | cons k ks ih =>
      rw [List.map_cons, List.foldl_cons, List.foldl_cons, hmerge]
      exact ih (m.merge k)

theorem merge_shift (n : Nat) (r m : Match) : (r.shift n).merge (m.shift n) = (r.merge m).shift n := by
  unfold Match.merge shift withSpans Spans.union
  rw [← Spans.normalize_map_shift, List.map_append]

end Match

/-! ### Matches of all parts -/

section
variable {α β γ : Type} {f : α → Option β}

theorem mapM_eq_some_iff {xs : List α} {ys : List β}
    : xs.mapM f = some ys ↔ List.Forall₂ (fun x y => f x = some y) xs ys := by
  induction xs generalizing ys with
  | nil =>
    rw [List.mapM_nil, List.forall₂_nil_left_iff]
    constructor
    . intro h
      cases h
      rfl
    . intro h
      rw [h]
      rfl
  | cons x xs ih =>
    rw [List.mapM_cons, List.forall₂_cons_left_iff]
    simp only [Option.bind_eq_bind, Option.bind_eq_some_iff, ih]
    constructor
    . rintro ⟨y, hy, zs, hzs, heq⟩
      cases heq
      exact ⟨y, zs, hy, hzs, rfl⟩
    . rintro ⟨y, zs, hy, hzs, rfl⟩
      exact ⟨y, hy, zs, hzs, rfl⟩

theorem exists_of_mem_right {R : α → β → Prop} {xs : List α} {ys : List β} (h : List.Forall₂ R xs ys)
    {y : β} (hy : y ∈ ys) : ∃ x ∈ xs, R x y := by
  induction h with
  | nil => cases hy
  | @cons x z xs zs hxz _ ih =>
    rcases List.mem_cons.mp hy with rfl | hy
    . exact ⟨x, List.mem_cons_self, hxz⟩
    . rcases ih hy with ⟨x', hx', hR⟩
      exact ⟨x', List.mem_cons_of_mem x hx', hR⟩

theorem isSome_mapM {xs : List α} : (xs.mapM f).isSome = true ↔ ∀ x ∈ xs, (f x).isSome = true := by
  induction xs with
  | nil => simp
  | cons x xs ih =>
    rw [List.mapM_cons, List.forall_mem_cons, ← ih]
    cases f x with
    | none => simp
    | some y => cases xs.mapM f <;> simp

theorem isSome_mapM_bind_mergeAll {find : α → Option Match} {xs : List α}
    : ((xs.mapM find).bind Match.mergeAll).isSome = true
        ↔
      xs ≠ [] ∧ ∀ x ∈ xs, (find x).isSome = true := by
  rw [← isSome_mapM]
  cases hms : xs.mapM find with
  | none => simp
  | some ms =>
    have hlength := (mapM_eq_some_iff.mp hms).length_eq
    rw [Option.bind_some, Match.isSome_mergeAll, ← List.length_pos_iff, ← List.length_pos_iff, hlength]
    simp

theorem of_mapM_bind_mergeAll {P : Match → Prop} (hmerge : ∀ r m, P r → P m → P (r.merge m))
    {find : α → Option Match} {xs : List α} (hfind : ∀ x ∈ xs, ∀ m, find x = some m → P m) {r : Match}
    (h : (xs.mapM find).bind Match.mergeAll = some r) : P r := by
  rcases Option.bind_eq_some_iff.mp h with ⟨ms, hms, hmergeAll⟩
  have hall : ∀ m ∈ ms, P m := by
    intro m hm
    rcases exists_of_mem_right (mapM_eq_some_iff.mp hms) hm with ⟨x, hx, hm⟩
    exact hfind x hx m hm
  cases ms with
  | nil => cases hmergeAll
  | cons m ms =>
    cases hmergeAll
    apply List.foldlRecOn
    . exact hall m List.mem_cons_self
    . intro r hr k hk
      exact hmerge r k hr (hall k (List.mem_cons_of_mem m hk))

theorem mapM_none_bind_mergeAll (xs : List α)
    : (xs.mapM fun _ => (none : Option Match)).bind Match.mergeAll = none := by
  cases xs with
  | nil => rfl
  | cons x xs => rfl

theorem mapM_map_right (g : β → γ) (xs : List α)
    : xs.mapM (fun x => (f x).map g) = (xs.mapM f).map (·.map g) := by
  induction xs with
  | nil => rfl
  | cons x xs ih =>
    rw [List.mapM_cons, List.mapM_cons, ih]
    cases f x with
    | none => rfl
    | some y => cases xs.mapM f <;> rfl

end
end IdentSearch
