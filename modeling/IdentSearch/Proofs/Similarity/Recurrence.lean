import IdentSearch.Similarity
import Mathlib.Order.Bounds.Basic

/-!
The distance of two texts as a recurrence over their beginnings. It is the least number of edits that
lead from one text to the other. An edit adds, takes away or replaces a character or swaps two neighbours.
-/

namespace IdentSearch

def Swapped (t u : Text) (i j : Nat) : Prop :=
  0 < i ∧ 0 < j ∧ t[i]? = u[j - 1]? ∧ t[i - 1]? = u[j]?

instance (t u : Text) (i j : Nat) : Decidable (Swapped t u i j) := by
  unfold Swapped
  infer_instance

def prefixDistance (t u : Text) : Nat → Nat → Nat
  | 0, j => j
  | i + 1, 0 => i + 1
  | i + 1, j + 1 =>
    let edited :=
      min (prefixDistance t u i j + if t[i]? = u[j]? then 0 else 1)
        (min (prefixDistance t u i (j + 1)) (prefixDistance t u (i + 1) j) + 1)
    if Swapped t u i j then min edited (prefixDistance t u (i - 1) (j - 1) + 1) else edited
termination_by i j => i + j

-- The first `i` characters of a text become the first `j` of another by `n` edits, each of which begins where the
-- ones before it end. So no place is edited twice.
inductive Edits (t u : Text) : Nat → Nat → Nat → Prop
  | start : Edits t u 0 0 0
  | keep {i j n : Nat} (before : Edits t u i j n) (same : t[i]? = u[j]?) : Edits t u (i + 1) (j + 1) n
  | substitute {i j n : Nat} (before : Edits t u i j n) : Edits t u (i + 1) (j + 1) (n + 1)
  | delete {i j n : Nat} (before : Edits t u i j n) : Edits t u (i + 1) j (n + 1)
  | insert {i j n : Nat} (before : Edits t u i j n) : Edits t u i (j + 1) (n + 1)
  | swap {i j n : Nat} (before : Edits t u i j n) (first : t[i]? = u[j + 1]?) (second : t[i + 1]? = u[j]?)
    : Edits t u (i + 2) (j + 2) (n + 1)

variable {t u : Text} {i j n m : Nat}

/-! ### The recurrence -/

theorem prefixDistance_zero_left (t u : Text) (j : Nat) : prefixDistance t u 0 j = j := by
  rw [prefixDistance]

theorem prefixDistance_zero_right (t u : Text) (i : Nat) : prefixDistance t u i 0 = i := by
  cases i with
  | zero => rw [prefixDistance]
  | succ i => rw [prefixDistance]

theorem prefixDistance_keep (h : t[i]? = u[j]?) : prefixDistance t u (i + 1) (j + 1) ≤ prefixDistance t u i j := by
  rw [prefixDistance, if_pos h]
  split
  . omega
  . omega

theorem prefixDistance_substitute (t u : Text) (i j : Nat)
    : prefixDistance t u (i + 1) (j + 1) ≤ prefixDistance t u i j + 1 := by
  rw [prefixDistance]
  split
  . split
    . omega
    . omega
  . split
    . omega
    . omega

theorem prefixDistance_delete (t u : Text) (i j : Nat)
    : prefixDistance t u (i + 1) j ≤ prefixDistance t u i j + 1 := by
  cases j with
  | zero => simp only [prefixDistance_zero_right, Nat.le_refl]
  | succ j =>
    rw [prefixDistance]
    split
    . omega
    . omega

theorem prefixDistance_insert (t u : Text) (i j : Nat)
    : prefixDistance t u i (j + 1) ≤ prefixDistance t u i j + 1 := by
  cases i with
  | zero => simp only [prefixDistance_zero_left, Nat.le_refl]
  | succ i =>
    rw [prefixDistance]
    split
    . omega
    . omega

theorem prefixDistance_swap (first : t[i]? = u[j + 1]?) (second : t[i + 1]? = u[j]?)
    : prefixDistance t u (i + 2) (j + 2) ≤ prefixDistance t u i j + 1 := by
  have hswapped : Swapped t u (i + 1) (j + 1) := ⟨Nat.succ_pos i, Nat.succ_pos j, second, first⟩
  rw [prefixDistance, if_pos hswapped]
  simp only [Nat.add_sub_cancel]
  omega

/-! ### The least number of edits -/

theorem Edits.prefixDistance_le (h : Edits t u i j n) : prefixDistance t u i j ≤ n := by
  induction h with
  | start => rw [prefixDistance_zero_left]
  | keep _ same ih => exact Nat.le_trans (prefixDistance_keep same) ih
  | substitute _ ih => exact Nat.le_trans (prefixDistance_substitute t u _ _) (Nat.succ_le_succ ih)
  | delete _ ih => exact Nat.le_trans (prefixDistance_delete t u _ _) (Nat.succ_le_succ ih)
  | insert _ ih => exact Nat.le_trans (prefixDistance_insert t u _ _) (Nat.succ_le_succ ih)
  | swap _ first second ih => exact Nat.le_trans (prefixDistance_swap first second) (Nat.succ_le_succ ih)

theorem Edits.min (h : Edits t u i j n) (h' : Edits t u i j m) : Edits t u i j (min n m) := by
  cases Nat.le_total n m with
  | inl hle => rwa [Nat.min_eq_left hle]
  | inr hle => rwa [Nat.min_eq_right hle]

theorem edits_insert (t u : Text) (j : Nat) : Edits t u 0 j j := by
  induction j with
  | zero => exact .start
  | succ j ih => exact .insert ih

theorem edits_delete (t u : Text) (i : Nat) : Edits t u i 0 i := by
  induction i with
  | zero => exact .start
  | succ i ih => exact .delete ih

theorem Edits.diagonal (h : Edits t u i j n)
    : Edits t u (i + 1) (j + 1) (n + if t[i]? = u[j]? then 0 else 1) := by
  split
  . next same => exact h.keep same
  . exact h.substitute

theorem Edits.transpose (h : Edits t u (i - 1) (j - 1) n) (hswapped : Swapped t u i j)
    : Edits t u (i + 1) (j + 1) (n + 1) := by
  rcases hswapped with ⟨hi, hj, second, first⟩
  cases i with
  | zero => exact absurd hi (Nat.lt_irrefl 0)
  | succ i =>
    cases j with
    | zero => exact absurd hj (Nat.lt_irrefl 0)
    | succ j => exact h.swap first second

-- The recurrence takes the least of at most four numbers, and each of them is the number of edits of a script.
theorem edits_prefixDistance (t u : Text) (i j : Nat) : Edits t u i j (prefixDistance t u i j) := by
  induction i, j using prefixDistance.induct t u with
  | case1 j =>
    rw [prefixDistance_zero_left]
    exact edits_insert t u j
  | case2 i =>
    rw [prefixDistance_zero_right]
    exact edits_delete t u (i + 1)
  | case3 i j hswapped diagonal above left skipped =>
    rw [prefixDistance, if_pos hswapped, ← Nat.add_min_add_right]
    exact (diagonal.diagonal.min (above.delete.min left.insert)).min (skipped.transpose hswapped)
  | case4 i j hnot diagonal above left =>
    rw [prefixDistance, if_neg hnot, ← Nat.add_min_add_right]
    exact diagonal.diagonal.min (above.delete.min left.insert)

theorem prefixDistance_isLeast (t u : Text) (i j : Nat)
    : IsLeast {n | Edits t u i j n} (prefixDistance t u i j) :=
  ⟨edits_prefixDistance t u i j, fun _ h => h.prefixDistance_le⟩

/-! ### Lengths -/

theorem Edits.length_le (h : Edits t u i j n) : i ≤ j + n ∧ j ≤ i + n := by
  induction h with
  | start => exact ⟨Nat.le_refl 0, Nat.le_refl 0⟩
  | keep => omega
  | substitute => omega
  | delete => omega
  | insert => omega
  | swap => omega

theorem prefixDistance_length_le (t u : Text) (i j : Nat)
    : i ≤ j + prefixDistance t u i j ∧ j ≤ i + prefixDistance t u i j :=
  (edits_prefixDistance t u i j).length_le

end IdentSearch
