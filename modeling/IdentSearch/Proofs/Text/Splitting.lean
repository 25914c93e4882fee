import IdentSearch.Text.Split
import Mathlib.Tactic.Common

/-!
How splitting goes on behind a separator: the pieces of a text in front of it stay, and those of the text
behind it follow, each as far to the right as its text.
-/

namespace IdentSearch

@[simp]
theorem Piece.shift_text (n : Nat) (p : Piece) : (p.shift n).text = p.text := rfl

@[simp]
theorem Piece.shift_start (n : Nat) (p : Piece) : (p.shift n).start = p.start + n := rfl

namespace Text

variable {isSeparator : Char → Bool} {dropEmpty : Bool} {c : Char}

theorem pieces.finished_shift (n start i : Nat) (taken : Text)
    : finished dropEmpty (start + n) taken (i + n) = (finished dropEmpty start taken i).map (·.shift n) := by
  simp only [finished, Nat.add_lt_add_iff_right]
  split
  . rfl
  . rfl

theorem pieces.go_shift (n start i : Nat) (taken t : Text)
    : go dropEmpty isSeparator (start + n) taken (i + n) t
        =
      (go dropEmpty isSeparator start taken i t).map (·.shift n) := by
  induction t generalizing start taken i with
  | nil => apply finished_shift
  | cons d ds ih =>
    have hnext : i + n + 1 = i + 1 + n := by omega
    unfold go
    rw [hnext]
    split
    . rw [List.map_append, ← ih, finished_shift]
    . rw [ih]

theorem pieces.go_append_cons (hc : isSeparator c = true) (start i : Nat) (taken q t : Text)
    : go dropEmpty isSeparator start taken i (q ++ c :: t)
        =
      go dropEmpty isSeparator start taken i q
        ++ (t.pieces dropEmpty isSeparator).map (·.shift (i + q.length + 1)) := by
  induction q generalizing start taken i with
  | nil =>
    have hrest : go dropEmpty isSeparator (0 + (i + 1)) [] (0 + (i + 1)) t
        = (t.pieces dropEmpty isSeparator).map (·.shift (i + 1)) := go_shift _ _ _ _ _
    rw [Nat.zero_add] at hrest
    simp only [List.nil_append, go, hc, if_true, hrest]
    rfl
  | cons d ds ih =>
    have hlength : i + (d :: ds).length + 1 = i + 1 + ds.length + 1 := by
      rw [List.length_cons]
      omega
    rw [List.cons_append, go, go, hlength, ih, ih]
    split
    . rw [List.append_assoc]
    . rfl

theorem pieces_append_cons (hc : isSeparator c = true) (q t : Text)
    : (q ++ c :: t).pieces dropEmpty isSeparator
        =
      q.pieces dropEmpty isSeparator ++ (t.pieces dropEmpty isSeparator).map (·.shift (q.length + 1)) := by
  have hgo : pieces.go dropEmpty isSeparator 0 [] 0 (q ++ c :: t) = _ := pieces.go_append_cons hc 0 0 [] q t
  rw [Nat.zero_add] at hgo
  exact hgo

theorem splitNonempty_append_cons (hc : isSeparator c = true) (q t : Text)
    : (q ++ c :: t).splitNonempty isSeparator
        =
      q.splitNonempty isSeparator ++ (t.splitNonempty isSeparator).map (·.shift (q.length + 1)) :=
  pieces_append_cons hc q t

end Text
end IdentSearch
