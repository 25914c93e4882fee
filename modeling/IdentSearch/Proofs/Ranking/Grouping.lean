import IdentSearch.Proofs.Ranking.Order

/-!
Ranked candidates by kind. The kind decides first in their order, so the groups of a ranking are stretches of
it, the strongest kind first.
-/

namespace IdentSearch

theorem Match.rank_le_of_compare {ignoreCase : Bool} {r s : Match} (h : (r.compare ignoreCase s).isLE)
    : s.kind.rank ≤ r.kind.rank := by
  unfold compare at h
  split at h
  . split at h
    . omega
    . cases h
  . next hkind => simp [Decidable.not_not.mp hkind]

namespace Ranked

structure AreGroups (groups : List (Kind × List Ranked)) : Prop where
  decreasing : groups.Pairwise fun g h => h.1.rank < g.1.rank
  nonempty : ∀ g ∈ groups, g.2 ≠ []
  kind_eq : ∀ g ∈ groups, ∀ r ∈ g.2, r.result.kind = g.1

def concat (groups : List (Kind × List Ranked)) : List Ranked := (groups.map (·.2)).flatten

variable {groups : List (Kind × List Ranked)} {r : Ranked} {rs : List Ranked} {ignoreCase : Bool}

theorem areGroups_cons {g : Kind × List Ranked}
    : AreGroups (g :: groups)
        ↔
      (g.2 ≠ [] ∧ ∀ r ∈ g.2, r.result.kind = g.1) ∧ (∀ h ∈ groups, h.1.rank < g.1.rank) ∧ AreGroups groups := by
  constructor
  . rintro ⟨hdecreasing, hnonempty, hkind⟩
    rw [List.pairwise_cons] at hdecreasing
    rw [List.forall_mem_cons] at hnonempty hkind
    exact ⟨⟨hnonempty.1, hkind.1⟩, hdecreasing.1, hdecreasing.2, hnonempty.2, hkind.2⟩
  . rintro ⟨⟨hne, hkind⟩, hlt, hgroups⟩
    constructor
    . rw [List.pairwise_cons]
      exact ⟨hlt, hgroups.decreasing⟩
    . rw [List.forall_mem_cons]
      exact ⟨hne, hgroups.nonempty⟩
    . rw [List.forall_mem_cons]
      exact ⟨hkind, hgroups.kind_eq⟩

/-! ### One more item -/

theorem forall_kind_add {P : Kind → Prop} (hnew : P r.result.kind) (hold : ∀ g ∈ groups, P g.1)
    : ∀ g ∈ groupByKind.add groups r, P g.1 := by
  induction groups with
  | nil => simpa [groupByKind.add] using hnew
  | cons first rest ih =>
    rw [List.forall_mem_cons] at hold
    unfold groupByKind.add
    split
    . rw [List.forall_mem_cons]
      exact hold
    . rw [List.forall_mem_cons]
      exact ⟨hold.1, ih hold.2⟩

theorem AreGroups.rest_eq_nil {g : Kind × List Ranked} (h : AreGroups (g :: groups))
    (hkind : g.1 = r.result.kind) (hlast : ∀ h ∈ groups, r.result.kind.rank ≤ h.1.rank) : groups = [] := by
  apply List.eq_nil_iff_forall_not_mem.mpr
  intro later hlater
  have hweaker := (areGroups_cons.mp h).2.1 later hlater
  have hleast := hlast later hlater
  rw [← hkind] at hleast
  omega

theorem AreGroups.add (h : AreGroups groups) (hlast : ∀ g ∈ groups, r.result.kind.rank ≤ g.1.rank)
    : AreGroups (groupByKind.add groups r) ∧ concat (groupByKind.add groups r) = concat groups ++ [r] := by
  induction groups with
  | nil => simp [groupByKind.add, areGroups_cons, concat, h]
  | cons first rest ih =>
    rw [List.forall_mem_cons] at hlast
    rcases areGroups_cons.mp h with ⟨⟨hne, hkinds⟩, hlt, hrest⟩
    unfold groupByKind.add
    split
    . next hkind =>
      have hnil : rest = [] := h.rest_eq_nil hkind hlast.2
      subst hnil
      constructor
      . apply areGroups_cons.mpr
        refine ⟨⟨by simp, ?_⟩, hlt, hrest⟩
        simp only [List.mem_append, List.mem_singleton]
        rintro s (hs | rfl)
        . apply hkinds s hs
        . simp [hkind]
      . simp [concat]
    . next hkind =>
      rcases ih hrest hlast.2 with ⟨hadd, hconcat⟩
      constructor
      . apply areGroups_cons.mpr
        refine ⟨⟨hne, hkinds⟩, ?_, hadd⟩
        apply forall_kind_add (P := fun k => k.rank < first.1.rank) _ hlt
        -- Kinds of the same rank are the same.
        have hdiffer : r.result.kind.rank ≠ first.1.rank := fun heq => hkind (Kind.rank_injective heq.symm)
        have hleast := hlast.1
        omega
      . simp only [concat, List.map_cons, List.flatten_cons, List.append_assoc] at hconcat ⊢
        rw [hconcat]

/-! ### All items -/

theorem AreGroups.foldl_add (h : AreGroups groups)
    (hsorted : rs.Pairwise fun r s => s.result.kind.rank ≤ r.result.kind.rank)
    (hlast : ∀ g ∈ groups, ∀ r ∈ rs, r.result.kind.rank ≤ g.1.rank)
    : AreGroups (rs.foldl groupByKind.add groups)
        ∧ concat (rs.foldl groupByKind.add groups) = concat groups ++ rs := by
  induction rs generalizing groups with
  | nil => simp [h]
  | cons r rs ih =>
    rw [List.pairwise_cons] at hsorted
    simp only [List.forall_mem_cons] at hlast
    rcases h.add fun g hg => (hlast g hg).1 with ⟨hadd, hconcat⟩
    rw [List.foldl_cons, List.append_cons, ← hconcat]
    apply ih hadd hsorted.2
    apply forall_kind_add (P := fun k => ∀ s ∈ rs, s.result.kind.rank ≤ k.rank) hsorted.1
    intro g hg
    apply (hlast g hg).2

theorem groupByKind_of_sorted (h : rs.Pairwise fun r s => (r.compare ignoreCase s).isLE)
    : AreGroups (groupByKind rs) ∧ concat (groupByKind rs) = rs := by
  have hnil : AreGroups [] := by
    constructor
    all_goals simp
  apply hnil.foldl_add
  . apply h.imp
    intro r s hrs
    apply Match.rank_le_of_compare (precedes_of_compare hrs).better
  . simp

end Ranked
end IdentSearch
