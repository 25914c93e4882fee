import IdentSearch.Proofs.Text.Order
import IdentSearch.Ranking

/-!
The order of ranked candidates. It is a total one that follows the comparison of their matches, and two
candidates that it takes for equal are the same text. So a sorted list does not show in which order its
items were given.
-/

namespace IdentSearch

open Std

/-! ### Comparisons -/

theorem Kind.rank_le_exact (k : Kind) : k.rank ≤ Kind.exact.rank := by
  cases k <;> decide

namespace Match

theorem compareBool_eq (b c : Bool) : compareBool b c = Ord.compare b c := by
  cases b <;> cases c <;> rfl

instance : Ord SortKey := ⟨SortKey.compare⟩

theorem SortKey.compare_eq_compareLex
    : (Ord.compare : SortKey → SortKey → Ordering)
        =
      compareLex (compareOn (·.kind)) (compareLex (compareOn (·.caseDiffers)) (compareOn (·.stripped))) := by
  funext k l
  show SortKey.compare k l = _
  rw [SortKey.compare, compareBool_eq, compareBool_eq]
  unfold compareLex compareOn
  rw [Int.compare_eq_ite_lt]
  split
  . rfl
  . split
    . rfl
    . rfl

instance : TransOrd SortKey := by
  unfold TransOrd
  rw [SortKey.compare_eq_compareLex]
  infer_instance

theorem compare_sortKey (ignoreCase : Bool) (m n : Match)
    : Ord.compare (m.sortKey ignoreCase) (n.sortKey ignoreCase) = m.compare ignoreCase n := by
  -- The key holds the negated rank, so that the stronger kind has the smaller key.
  have hrank : m.kind = n.kind ↔ m.kind.rank = n.kind.rank := ⟨congrArg _, Kind.rank_injective⟩
  show SortKey.compare _ _ = _
  unfold SortKey.compare sortKey compare
  dsimp only
  split
  . next hlt =>
    have hkind : m.kind ≠ n.kind := by
      rw [ne_eq, hrank]
      omega
    rw [if_pos hkind, if_pos (by omega)]
  . split
    . next hgt =>
      have hkind : m.kind ≠ n.kind := by
        rw [ne_eq, hrank]
        omega
      rw [if_pos hkind, if_neg (by omega)]
    . have hkind : m.kind = n.kind := by
        rw [hrank]
        omega
      rw [if_neg (fun hne => hne hkind)]
      cases ignoreCase <;> cases m.caseSensitive <;> cases n.caseSensitive <;>
        cases m.punctuationStripped <;> cases n.punctuationStripped <;> rfl

structure IsPerfect (r : Match) : Prop where
  kind : r.kind = .exact
  caseSensitive : r.caseSensitive = true
  kept : r.punctuationStripped = false

theorem IsPerfect.of_compare_isLE {r s : Match} (hs : s.IsPerfect) (h : (r.compare false s).isLE)
    : r.IsPerfect := by
  unfold compare at h
  rw [hs.kind, hs.caseSensitive, hs.kept] at h
  split at h
  . split at h
    . next hlt => exact absurd hlt (Nat.not_lt_of_le (Kind.rank_le_exact r.kind))
    . cases h
  . next hkind =>
    rcases r with ⟨kind, stripped, caseSensitive, spans⟩
    constructor
    . exact Decidable.not_not.mp hkind
    . cases caseSensitive with
      | true => rfl
      | false => cases h
    . cases stripped with
      | false => rfl
      | true => cases caseSensitive <;> cases h

theorem IsPerfect.of_sortKey_eq {r s : Match} (hs : s.IsPerfect) (h : r.sortKey false = s.sortKey false)
    : r.IsPerfect := by
  apply hs.of_compare_isLE
  rw [← compare_sortKey, h, compare_self]
  rfl

end Match

namespace Ranked

variable {ignoreCase : Bool}

theorem compare_eq_compareLex (ignoreCase : Bool)
    : compare ignoreCase
        =
      compareLex (compareOn (·.result.sortKey ignoreCase))
        (compareLex (compareOn (·.candidate.lowercase)) (compareOn (·.candidate))) := by
  funext r s
  rw [compare, Text.compare_eq, Text.compare_eq]
  rfl

instance : TransCmp (compare ignoreCase) := by
  rw [compare_eq_compareLex]
  infer_instance

theorem candidate_eq_of_compare_eq {r s : Ranked} (h : r.compare ignoreCase s = .eq)
    : r.candidate = s.candidate := by
  rw [compare_eq_compareLex] at h
  have hcandidate := (compareLex_eq_eq.mp (compareLex_eq_eq.mp h).2).2
  exact LawfulEqOrd.eq_of_compare hcandidate

structure Precedes (ignoreCase : Bool) (r s : Ranked) : Prop where
  better : (r.result.compare ignoreCase s.result).isLE
  alphabetical : r.result.compare ignoreCase s.result = .eq
    → ((Text.compare r.candidate.lowercase s.candidate.lowercase).then
        (Text.compare r.candidate s.candidate)).isLE

theorem precedes_of_compare {r s : Ranked} (h : (r.compare ignoreCase s).isLE)
    : r.Precedes ignoreCase s := by
  have hkeys : (r.result.sortKey ignoreCase).compare (s.result.sortKey ignoreCase)
      = r.result.compare ignoreCase s.result := Match.compare_sortKey ignoreCase r.result s.result
  rw [compare, hkeys, Ordering.isLE_then_iff_and] at h
  refine ⟨h.1, ?_⟩
  intro heq
  rcases h.2 with hlt | htexts
  . rw [heq] at hlt
    cases hlt
  . exact htexts

/-! ### Sorted lists -/

theorem sort_pairwise (ignoreCase : Bool) (rs : List Ranked)
    : (sort ignoreCase rs).Pairwise fun r s => (r.compare ignoreCase s).isLE := by
  apply List.pairwise_mergeSort
  . intro r s t hrs hst
    exact TransCmp.isLE_trans hrs hst
  . intro r s
    have hswap : s.compare ignoreCase r = (r.compare ignoreCase s).swap := OrientedCmp.eq_swap
    rw [hswap]
    cases r.compare ignoreCase s <;> rfl

theorem sort_perm (ignoreCase : Bool) (rs : List Ranked) : (sort ignoreCase rs).Perm rs :=
  List.mergeSort_perm rs _

theorem sort_eq_of_perm {rs ss : List Ranked} (h : rs.Perm ss)
    (hsame : ∀ r ∈ ss, ∀ s ∈ ss, r.candidate = s.candidate → r = s)
    : sort ignoreCase rs = sort ignoreCase ss := by
  have hperm : (sort ignoreCase rs).Perm (sort ignoreCase ss) :=
    (sort_perm ignoreCase rs).trans (h.trans (sort_perm ignoreCase ss).symm)
  apply List.Perm.eq_of_pairwise _ (sort_pairwise ignoreCase rs) (sort_pairwise ignoreCase ss) hperm
  -- Items that compare as equal are the same text, and equal items only if the text decides the match.
  intro r s hr hs hrs hsr
  have hr := h.subset ((sort_perm ignoreCase rs).subset hr)
  have hs := (sort_perm ignoreCase ss).subset hs
  apply hsame r hr s hs
  exact candidate_eq_of_compare_eq (OrientedCmp.isLE_antisymm hrs hsr)

theorem compare_head_isLE {rs rest : List Ranked} {first : Ranked} (h : sort ignoreCase rs = first :: rest)
    : ∀ r ∈ first :: rest, (first.compare ignoreCase r).isLE := by
  have hpairwise := sort_pairwise ignoreCase rs
  rw [h, List.pairwise_cons] at hpairwise
  intro r hr
  cases hr with
  | head =>
    have hself : first.compare ignoreCase first = .eq := ReflCmp.compare_self
    rw [hself]
    rfl
  | tail _ hr => exact hpairwise.1 r hr

theorem exists_isPerfect_head {rs : List Ranked} {r : Ranked} (hr : r ∈ rs)
    (hperfect : r.result.IsPerfect)
    : ∃ first rest, sort false rs = first :: rest ∧ first.result.IsPerfect := by
  have hr := (sort_perm false rs).mem_iff.mpr hr
  rcases hsort : sort false rs with _ | ⟨first, rest⟩
  . rw [hsort] at hr
    cases hr
  . rw [hsort] at hr
    refine ⟨first, rest, rfl, ?_⟩
    have hprecedes := precedes_of_compare (compare_head_isLE hsort r hr)
    exact hperfect.of_compare_isLE hprecedes.better

theorem takeLimit_sublist {α : Type} (limit : Option Int) (items : List α)
    : (takeLimit limit items).Sublist items := by
  unfold takeLimit
  split
  . exact List.Sublist.refl items
  . split
    . exact List.take_sublist _ items
    . exact List.take_sublist _ items

theorem takeLimit_cons {α : Type} {limit : Option Int} (hlimit : ∀ n, limit = some n → 1 ≤ n) (item : α)
    (items : List α) : ∃ rest, takeLimit limit (item :: items) = item :: rest ∧ rest.Sublist items := by
  cases limit with
  | none => exact ⟨items, rfl, List.Sublist.refl items⟩
  | some n =>
    have hn := hlimit n rfl
    have hsucc : n.toNat = (n.toNat - 1) + 1 := by omega
    refine ⟨items.take (n.toNat - 1), ?_, List.take_sublist _ items⟩
    rw [takeLimit, if_pos (by omega), hsucc, List.take_succ_cons]
    rfl

end Ranked
end IdentSearch
