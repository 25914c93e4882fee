import IdentSearch.Text.Basic
import Mathlib.Data.List.Sort

/-!
The order of texts. It is the lexicographic one of their characters, and so a linear one.
-/

namespace IdentSearch.Text

open Std

theorem compareChar_eq (c d : Char) : Ord.compare c d = Ord.compare c.toNat d.toNat := by
  show compareOfLessAndEq c d = compareOfLessAndEq c.toNat d.toNat
  unfold compareOfLessAndEq
  simp only [Char.toNat_inj]
  rfl

theorem compare_eq (t u : Text) : compare t u = Ord.compare t u := by
  induction t generalizing u with
  | nil =>
    cases u with
    | nil => rfl
    | cons b bs => rfl
  | cons a as ih =>
    cases u with
    | nil => rfl
    | cons b bs =>
      rw [List.compare_cons_cons, ← ih, compareChar_eq, Nat.compare_eq_ite_lt, compare]
      split
      . rfl
      . split
        . rfl
        . rfl

instance : TransCmp compare := by
  have hcompare : compare = (Ord.compare : Text → Text → Ordering) := by
    funext t u
    exact compare_eq t u
  rw [hcompare]
  infer_instance

abbrev AtMost (t u : Text) : Prop := (t.compare u).isLE

theorem atMost_iff {t u : Text} : t.AtMost u ↔ u.compare t ≠ .lt := by
  have hswap : u.compare t = (t.compare u).swap := OrientedCmp.eq_swap
  rw [hswap, AtMost]
  cases t.compare u <;> decide

instance : IsTrans Text AtMost := ⟨fun _ _ _ => TransCmp.isLE_trans⟩

instance : Std.Total AtMost := by
  constructor
  intro t u
  rw [atMost_iff, AtMost]
  cases u.compare t <;> decide

end IdentSearch.Text
