import IdentSearch.Proofs.Similarity.Recurrence

/-!
The table of distances is filled row by row, and of the rows above only two are kept. Each of its cells
holds the distance of the recurrence.
-/

namespace IdentSearch

def Text.charBefore (t : Text) : Nat → Option Char
  | 0 => none
  | i + 1 => t[i]?

namespace DistanceRow

/-- The distances from the first `i` characters of a text, in the columns from `j` on. -/
def ofPrefix (t u : Text) (i j : Nat) : DistanceRow :=
  (List.range' j (u.length + 1 - j)).map (prefixDistance t u i)

/-- The row above that of the first `i` characters, in the columns from the one left of `j` on. -/
def ofSwap (t u : Text) : Nat → Nat → DistanceRow
  | 0, _ => []
  | i + 1, j => ofPrefix t u i (j - 1)

variable {t u us : Text} {c d : Char} {i j : Nat}

theorem ofPrefix_cons (t : Text) (i : Nat) (hj : j ≤ u.length)
    : ofPrefix t u i j = prefixDistance t u i j :: ofPrefix t u i (j + 1) := by
  have hlength : u.length + 1 - j = u.length + 1 - (j + 1) + 1 := by omega
  unfold ofPrefix
  rw [hlength, List.range'_succ, List.map_cons]

theorem ofPrefix_nil (t : Text) (i : Nat) (hj : u.length < j) : ofPrefix t u i j = [] := by
  have hlength : u.length + 1 - j = 0 := by omega
  unfold ofPrefix
  rw [hlength, List.range'_zero, List.map_nil]

theorem ofPrefix_zero (t u : Text) : ofPrefix t u 0 0 = List.range (u.length + 1) := by
  have hid : ∀ j ∈ List.range (u.length + 1), prefixDistance t u 0 j = id j := by
    intro j _
    exact prefixDistance_zero_left t u j
  rw [ofPrefix, Nat.sub_zero, ← List.range_eq_range', List.map_congr_left hid, List.map_id]

theorem getLastD_ofPrefix (t u : Text) (i : Nat)
    : (ofPrefix t u i 0).getLastD 0 = prefixDistance t u i u.length := by
  rw [ofPrefix, Nat.sub_zero, ← List.range_eq_range', List.range_succ, List.map_append, List.map_singleton,
    List.getLastD_concat]

/-! ### One row -/

theorem tail_ofSwap (t : Text) (i : Nat) (hj : j < u.length)
    : (if (u.charBefore j).isSome then (ofSwap t u i j).tail else ofSwap t u i j) = ofSwap t u i (j + 1) := by
  cases j with
  | zero =>
    rw [if_neg (by simp [Text.charBefore])]
    cases i with
    | zero => rfl
    | succ i => rfl
  | succ j =>
    have hbefore : (u.charBefore (j + 1)).isSome = true := by
      rw [Text.charBefore, List.getElem?_eq_getElem (by omega), Option.isSome_some]
    rw [if_pos hbefore]
    cases i with
    | zero => rfl
    | succ i =>
      simp only [ofSwap, Nat.add_sub_cancel]
      rw [ofPrefix_cons t i (by omega), List.tail_cons]

theorem charBefore_iff_swapped (hc : t[i]? = some c) (hd : u[j]? = some d)
    : some c = u.charBefore j ∧ t.charBefore i = some d ↔ Swapped t u i j := by
  cases i with
  | zero => simp [Text.charBefore, Swapped]
  | succ i =>
    cases j with
    | zero => simp [Text.charBefore, Swapped]
    | succ j => simp [Text.charBefore, Swapped, hc, hd]

theorem head?_ofSwap (h : Swapped t u i j) (hj : j ≤ u.length)
    : (ofSwap t u i j).head? = some (prefixDistance t u (i - 1) (j - 1)) := by
  cases i with
  | zero => exact absurd h.1 (Nat.lt_irrefl 0)
  | succ i =>
    simp only [ofSwap, Nat.add_sub_cancel]
    rw [ofPrefix_cons t i (by omega), List.head?_cons]

theorem cell_eq (hc : t[i]? = some c) (hd : u[j]? = some d)
    : cell (c == d) (prefixDistance t u i j) (prefixDistance t u i (j + 1)) (prefixDistance t u (i + 1) j)
        (if some c = u.charBefore j ∧ t.charBefore i = some d then (ofSwap t u i j).head? else none)
        =
      prefixDistance t u (i + 1) (j + 1) := by
  have hj := (List.getElem?_eq_some_iff.mp hd).1
  have hdiagonal : (if (c == d) = true then prefixDistance t u i j else prefixDistance t u i j + 1)
      = prefixDistance t u i j + if t[i]? = u[j]? then 0 else 1 := by
    rw [hc, hd]
    by_cases hsame : c = d
    . simp [hsame]
    . simp [hsame]
  unfold cell
  rw [hdiagonal, prefixDistance]
  simp only [charBefore_iff_swapped hc hd]
  by_cases hswapped : Swapped t u i j
  . rw [if_pos hswapped, if_pos hswapped, head?_ofSwap hswapped (by omega)]
  . rw [if_neg hswapped, if_neg hswapped]

theorem below_nil (c : Char) (previous : Option Char) (left : Nat) (before : Option Char)
    (twoUp oneUp : DistanceRow) : below c previous left before twoUp oneUp [] = [] := by
  unfold below
  split
  . next heq => cases heq
  . rfl

-- The induction is on the rest of the row's text. All rows that are at hand move on by one column together,
-- but for the one that a swap goes back to, which stays in its first column once.
theorem below_ofPrefix (hc : t[i]? = some c) (hus : u.drop j = us)
    : below c (t.charBefore i) (prefixDistance t u (i + 1) j) (u.charBefore j) (ofSwap t u i j)
        (ofPrefix t u i j) us
        =
      ofPrefix t u (i + 1) (j + 1) := by
  induction us generalizing j with
  | nil =>
    have hj : u.length ≤ j := List.drop_eq_nil_iff.mp hus
    rw [below_nil, ofPrefix_nil t (i + 1) (by omega)]
  | cons d ds ih =>
    rcases getElem?_of_drop hus with ⟨hd, hds⟩
    have hj : j < u.length := (List.getElem?_eq_some_iff.mp hd).1
    have hbefore : u.charBefore (j + 1) = some d := hd
    have htail := ih hds
    rw [hbefore] at htail
    rw [ofPrefix_cons t i (by omega), ofPrefix_cons t i (by omega), below, cell_eq hc hd,
      tail_ofSwap t i hj, ← ofPrefix_cons t i (by omega), htail, ← ofPrefix_cons t (i + 1) (by omega)]

end DistanceRow

/-! ### The table -/

open DistanceRow

variable {t u rest : Text} {c : Char} {i : Nat}

theorem cons_below_ofPrefix (hc : t[i]? = some c)
    : (i + 1) :: below c (t.charBefore i) (i + 1) none (ofSwap t u i 0) (ofPrefix t u i 0) u
        =
      ofPrefix t u (i + 1) 0 := by
  have hbelow := below_ofPrefix (u := u) (j := 0) hc List.drop_zero
  rw [prefixDistance_zero_right] at hbelow
  rw [ofPrefix_cons t (i + 1) (Nat.zero_le _), prefixDistance_zero_right]
  exact congrArg _ hbelow

theorem alignmentDistance.go_eq (hi : i ≤ t.length) (hrest : t.drop i = rest)
    : go u (t.charBefore i) (ofSwap t u i 0) (ofPrefix t u i 0) (i + 1) rest
        =
      prefixDistance t u t.length u.length := by
  induction rest generalizing i with
  | nil =>
    have hlength : t.length ≤ i := List.drop_eq_nil_iff.mp hrest
    have heq : i = t.length := Nat.le_antisymm hi hlength
    rw [go, getLastD_ofPrefix, heq]
  | cons c cs ih =>
    rcases getElem?_of_drop hrest with ⟨hc, hcs⟩
    have hlt : i < t.length := (List.getElem?_eq_some_iff.mp hc).1
    have hnext := ih hlt hcs
    rw [Text.charBefore, hc] at hnext
    rw [go, cons_below_ofPrefix hc]
    exact hnext

theorem alignmentDistance_eq (t u : Text) : alignmentDistance t u = prefixDistance t u t.length u.length := by
  rw [alignmentDistance, ← ofPrefix_zero t u]
  exact alignmentDistance.go_eq (Nat.zero_le t.length) List.drop_zero

end IdentSearch
