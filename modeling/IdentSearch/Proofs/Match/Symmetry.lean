import Mathlib.Data.List.Perm.Basic
import IdentSearch.Proofs.Match.Merging

/-!
Merging does not depend on any order: what a list of matches makes up is determined by the matches in it, whatever
their spans look like. It compares no better than any of them.
-/

namespace IdentSearch
namespace Match

variable {ms others : List Match} {m r q : Match}

theorem combines_normalized (m : Match) : Combines [m] (m.withSpans (Spans.normalize m.spans)) := by
  constructor
  . exact ⟨m, List.mem_singleton_self m, rfl⟩
  . simp [withSpans]
  . simp [withSpans]
  . simp [withSpans]
  . rw [List.flatMap_singleton]
    rfl

theorem merge_normalized (m n : Match) : (m.withSpans (Spans.normalize m.spans)).merge n = m.merge n := by
  unfold Match.merge withSpans Spans.union
  congr 1
  apply Spans.normalize_eq_normalize
  intro i
  rw [Spans.covers_append, Spans.covers_append, Spans.covers_normalize]

theorem combines_pair (m n : Match) : Combines [m, n] (m.merge n) := by
  rw [← merge_normalized]
  exact (combines_normalized m).merge n

theorem exists_combines (h : 2 ≤ ms.length) : ∃ r, mergeAll ms = some r ∧ Combines ms r := by
  rcases ms with _ | ⟨m, _ | ⟨n, ms⟩⟩
  . simp at h
  . simp at h
  . exact ⟨_, rfl, (combines_pair m n).foldl⟩

theorem Combines.eq (hr : Combines ms r) (hq : Combines ms q) : r = q := by
  have hkind : r.kind = q.kind := by
    rcases hr.kind_mem with ⟨m, hm, hmr⟩
    rcases hq.kind_mem with ⟨n, hn, hnq⟩
    have hle := hr.kind_le n hn
    have hge := hq.kind_le m hm
    rw [hnq] at hle
    rw [hmr] at hge
    exact Kind.rank_injective (Nat.le_antisymm hle hge)
  have hstripped := hr.stripped.trans hq.stripped.symm
  have hcase := hr.caseSensitive.trans hq.caseSensitive.symm
  have hspans := hr.spans.trans hq.spans.symm
  cases r
  cases q
  simp_all

theorem merge_comm (m n : Match) : m.merge n = n.merge m := by
  have hswapped := (combines_pair n m).perm (List.Perm.swap m n [])
  exact (combines_pair m n).eq hswapped

theorem merge_assoc (k m n : Match) : (k.merge m).merge n = k.merge (m.merge n) := by
  rw [merge_comm k (m.merge n)]
  have hrotated : [m, n, k].Perm [k, m, n] := @List.perm_append_comm _ [m, n] [k]
  exact ((combines_pair k m).merge n).eq (((combines_pair m n).merge k).perm hrotated)

theorem mergeAll_perm (h : ms.Perm others) : mergeAll ms = mergeAll others := by
  cases Nat.lt_or_ge ms.length 2 with
  | inl hshort =>
    rcases ms with _ | ⟨m, _ | ⟨n, ms⟩⟩
    . rw [h.nil_eq]
    . rw [List.singleton_perm.mp h]
    . simp only [List.length_cons] at hshort
      omega
  | inr hlong =>
    rcases exists_combines hlong with ⟨r, hr, hcombines⟩
    rw [h.length_eq] at hlong
    rcases exists_combines hlong with ⟨q, hq, hcombines'⟩
    rw [hr, hq, (hcombines.perm h).eq hcombines']

theorem Combines.compare_isGE (h : Combines ms r) (hm : m ∈ ms) (ignoreCase : Bool)
    : (r.compare ignoreCase m).isGE = true := by
  have hkind := h.kind_le m hm
  have hcase : r.caseSensitive = true → m.caseSensitive = true := by
    rw [h.caseSensitive, List.all_eq_true]
    exact fun hall => hall m hm
  have hstripped : m.punctuationStripped = true → r.punctuationStripped = true := by
    rw [h.stripped, List.any_eq_true]
    exact fun hkept => ⟨m, hm, hkept⟩
  unfold Match.compare
  split
  . rw [if_neg (Nat.not_lt.mpr hkind)]
    rfl
  . split
    . next hdiffer =>
      rw [Bool.and_eq_true, bne_iff_ne] at hdiffer
      have hnot : ¬ r.caseSensitive = true := fun hr => hdiffer.2 (by rw [hr, hcase hr])
      rw [if_neg hnot]
      rfl
    . split
      . next hdiffer =>
        rw [bne_iff_ne] at hdiffer
        have hleftOut : r.punctuationStripped = true := by
          by_contra hkept
          apply hdiffer
          rw [Bool.eq_iff_iff]
          exact ⟨fun hr => absurd hr hkept, hstripped⟩
        rw [if_pos hleftOut]
        rfl
      . rfl

/-! ### Matches of all parts -/

section
variable {α β : Type} {f : α → Option β}

theorem mapM_perm {xs ys : List α} {zs : List β} (h : xs.Perm ys) (hzs : xs.mapM f = some zs)
    : ∃ us, ys.mapM f = some us ∧ us.Perm zs := by
  rcases List.perm_comp_forall₂ h.symm (mapM_eq_some_iff.mp hzs) with ⟨us, hus, hperm⟩
  exact ⟨us, mapM_eq_some_iff.mpr hus, hperm⟩

theorem mapM_bind_mergeAll_perm {find : α → Option Match} {xs ys : List α} (h : xs.Perm ys)
    : (xs.mapM find).bind mergeAll = (ys.mapM find).bind mergeAll := by
  cases hxs : xs.mapM find with
  | some ms =>
    rcases mapM_perm h hxs with ⟨ns, hns, hperm⟩
    rw [hns]
    exact mergeAll_perm hperm.symm
  | none =>
    cases hys : ys.mapM find with
    | none => rfl
    | some ns =>
      rcases mapM_perm h.symm hys with ⟨ms, hms, _⟩
      rw [hxs] at hms
      cases hms

end

end Match
end IdentSearch
