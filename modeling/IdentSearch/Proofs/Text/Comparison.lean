import IdentSearch.Proofs.Text.Folding
import Mathlib.Order.Bounds.Basic

/-!
What the comparisons of texts have in common. Folding goes character by character, so that it can be done before a
text is cut or behind it, and the position at which one text occurs in another decides whether it is a beginning of
it or the same.
-/

namespace IdentSearch
namespace Text

variable {value t : Text} {i j : Nat}

theorem length_le_of_find?_eq_some (h : find? value t = some i) : i + value.length ≤ t.length := by
  induction t generalizing i with
  | nil =>
    unfold find? at h
    split at h
    . next hempty =>
      cases h
      rw [List.isEmpty_iff.mp hempty, List.length_nil]
    . cases h
  | cons c cs ih =>
    unfold find? at h
    split at h
    . next hbegins =>
      cases h
      rw [Nat.zero_add]
      exact (List.isPrefixOf_iff_prefix.mp hbegins).length_le
    . rcases Option.map_eq_some_iff.mp h with ⟨j, hj, rfl⟩
      have := ih hj
      rw [List.length_cons]
      omega

theorem not_prefix_of_lt_find? (h : ∀ i, find? value t = some i → j < i) (hj : j + value.length ≤ t.length)
    : ¬ value <+: t.drop j := by
  induction t generalizing j with
  | nil =>
    intro hbegins
    rw [List.drop_nil, ← find?_eq_zero_iff] at hbegins
    exact Nat.not_lt_zero j (h 0 hbegins)
  | cons c cs ih =>
    cases j with
    | zero =>
      intro hbegins
      rw [List.drop_zero, ← find?_eq_zero_iff] at hbegins
      exact Nat.lt_irrefl 0 (h 0 hbegins)
    | succ j =>
      rw [List.drop_succ_cons]
      rw [List.length_cons] at hj
      apply ih
      . intro i hi
        have hlt : j + 1 < i + 1 := by
          apply h
          rw [find?, if_neg, hi]
          . rfl
          . intro hbegins
            have hzero : find? value (c :: cs) = some 0 := by rw [find?, if_pos hbegins]
            exact Nat.not_lt_zero _ (h 0 hzero)
        omega
      . omega

theorem isLeast_of_find?_eq_some (h : find? value t = some i)
    : IsLeast { j | j + value.length ≤ t.length ∧ value <+: t.drop j } i := by
  constructor
  . exact ⟨length_le_of_find?_eq_some h, prefix_of_find?_eq_some h⟩
  . rintro j ⟨hj, hbegins⟩
    by_contra hlt
    rw [Nat.not_le] at hlt
    apply not_prefix_of_lt_find? _ hj hbegins
    intro k hk
    rw [h] at hk
    cases hk
    exact hlt

theorem find?_eq_none_iff
    : find? value t = none ↔ ∀ j, j + value.length ≤ t.length → ¬ value <+: t.drop j := by
  constructor
  . intro h j hj
    apply not_prefix_of_lt_find? _ hj
    intro i hi
    rw [h] at hi
    cases hi
  . intro h
    rw [Option.eq_none_iff_forall_ne_some]
    intro i hi
    exact h i (length_le_of_find?_eq_some hi) (prefix_of_find?_eq_some hi)

theorem find?_eq_some_iff
    : find? value t = some i ↔ IsLeast { j | j + value.length ≤ t.length ∧ value <+: t.drop j } i := by
  constructor
  . exact isLeast_of_find?_eq_some
  . intro h
    cases hfind : find? value t with
    | none => exact absurd h.1.2 (find?_eq_none_iff.mp hfind i h.1.1)
    | some k => rw [(isLeast_of_find?_eq_some hfind).unique h]

end Text

namespace Folding

variable {f : Folding} {ignoreCase : Bool} {t value : Text} {i : Nat}

def occurrences (f : Folding) (ignoreCase : Bool) (t value : Text) : Set Nat :=
  { i | i + value.length ≤ t.length ∧ f.regionEquals ignoreCase t i value 0 value.length = true }

structure FoldsEachCharacter (f : Folding) (t : Text) : Prop where
  length_eq : (f.fold t).length = t.length
  getElem?_eq : ∀ i : Nat, (f.fold t)[i]? = t[i]?.map f.foldChar
  cut_eq : ∀ start stop, f.fold (t.cut start stop) = (f.fold t).cut start stop
  append_eq : ∀ u, f.fold (t ++ u) = f.fold t ++ f.fold u

structure ComparesByPosition (f : Folding) (ignoreCase : Bool) (t value : Text) : Prop where
  indexOf_eq_some_iff : ∀ i, f.indexOf ignoreCase t value = some i ↔ IsLeast (f.occurrences ignoreCase t value) i
  indexOf_eq_none_iff : f.indexOf ignoreCase t value = none ↔ f.occurrences ignoreCase t value = ∅
  startsWith_iff : f.startsWith ignoreCase t value = true ↔ f.indexOf ignoreCase t value = some 0
  equals_iff : f.equals ignoreCase t value = true
    ↔ f.indexOf ignoreCase t value = some 0 ∧ t.length = value.length

theorem foldsEachCharacter (f : Folding) (t : Text) : f.FoldsEachCharacter t := by
  constructor
  . rw [← view_true, length_view]
  . intro i
    rw [fold_eq_map, List.getElem?_map]
  . intro start stop
    simp only [fold_eq_map, Text.cut, List.map_take, List.map_drop, List.length_map]
  . intro u
    simp only [← view_true, view_append]

theorem occurrences_eq (f : Folding) (ignoreCase : Bool) (t value : Text)
    : f.occurrences ignoreCase t value
        =
      { i | i + (f.view ignoreCase value).length ≤ (f.view ignoreCase t).length
        ∧ f.view ignoreCase value <+: (f.view ignoreCase t).drop i } := by
  have hvalue : value.slice 0 value.length = value := by
    rw [Text.slice, List.drop_zero, List.take_length]
  ext i
  rw [occurrences, Set.mem_ofPred_eq, Set.mem_ofPred_eq, length_view, length_view, regionEquals, equals_iff, hvalue,
    view_slice, Text.slice, List.prefix_iff_eq_take, length_view, eq_comm (a := f.view ignoreCase value)]

theorem comparesByPosition (f : Folding) (ignoreCase : Bool) (t value : Text)
    : f.ComparesByPosition ignoreCase t value := by
  constructor
  . intro i
    rw [indexOf_eq_find?, occurrences_eq, Text.find?_eq_some_iff]
  . rw [indexOf_eq_find?, occurrences_eq, Text.find?_eq_none_iff, Set.eq_empty_iff_forall_notMem]
    simp only [Set.mem_ofPred_eq, not_and]
  . rw [startsWith_iff, indexOf_eq_find?, Text.find?_eq_zero_iff]
  . rw [equals_iff, indexOf_eq_find?, Text.find?_eq_zero_iff]
    constructor
    . intro h
      have hlength := congrArg List.length h
      rw [length_view, length_view] at hlength
      rw [h]
      exact ⟨List.prefix_refl _, hlength⟩
    . rintro ⟨hbegins, hlength⟩
      apply (hbegins.eq_of_length _).symm
      rw [length_view, length_view, hlength]

theorem charsEqual_eq_equals (f : Folding) (ignoreCase : Bool) (c d : Char)
    : f.charsEqual ignoreCase c d = f.equals ignoreCase [c] [d] := by
  rw [Bool.eq_iff_iff, equals_iff, view_eq_map, view_eq_map, charsEqual]
  cases ignoreCase with
  | true => simp [viewChar]
  | false => simp [viewChar]

theorem givenEqual_singleton (f : Folding) (ignoreCase : Bool) (c d : Char)
    : f.givenEqual ignoreCase [c] [d] = .ok (f.equals ignoreCase [c] [d]) := by
  rw [← charsEqual_eq_equals, givenEqual, charsEqual]
  cases ignoreCase with
  | true =>
    show Except.ok ([f.foldChar c] == [f.foldChar d]) = _
    simp
  | false => simp

theorem comparisons_agree (locale : Option Text) (t value : Text) (ignoreCase : Bool) (c d : Char)
    : let f := Folding.ofLocale locale
      f.FoldsEachCharacter t ∧ f.ComparesByPosition ignoreCase t value ∧
        f.charsEqual ignoreCase c d = f.equals ignoreCase [c] [d] ∧
          f.givenEqual ignoreCase [c] [d] = .ok (f.equals ignoreCase [c] [d]) := by
  intro f
  refine ⟨foldsEachCharacter f t, comparesByPosition f ignoreCase t value, ?_, ?_⟩
  . apply charsEqual_eq_equals
  . apply givenEqual_singleton

end Folding
end IdentSearch
