import IdentSearch.Text.Lines
import Mathlib.Tactic.Common

/-!
The lines of a text, read one after the other, and those that are not blank.
-/

namespace IdentSearch.Text

def lines : Text → List Text
  | [] => []
  | '\r' :: '\n' :: cs => [] :: lines cs
  | c :: cs =>
    if c = '\n' ∨ c = '\r' then [] :: lines cs
    else match lines cs with
      | [] => [[c]]
      | line :: rest => (c :: line) :: rest

-- The pieces of a text are its lines, and perhaps an empty one behind what ends the last of them.
def AreLines (t : Text) (pieces : List Text) : Prop := pieces = t.lines ∧ t.lines ≠ [] ∨ pieces = t.lines ++ [[]]

theorem splitLines_newline (t : Text) : splitLines ('\n' :: t) = [] :: splitLines t := by
  have hsome : splitLines t ≠ [] := by
    unfold splitLines
    split
    . exact List.cons_ne_nil _ _
    . split
      . exact List.cons_ne_nil _ _
      . split
        . exact List.cons_ne_nil _ _
        . exact List.cons_ne_nil _ _
  rw [splitLines]
  split
  . next hnone => exact absurd hnone hsome
  . next hsplit => rw [if_pos rfl, hsplit]

variable {c : Char} {t u : Text} {pieces : List Text}

theorem AreLines.newline (h : t.AreLines pieces) (hu : u.lines = [] :: t.lines) : u.AreLines ([] :: pieces) := by
  rcases h with ⟨rfl, _⟩ | rfl
  . refine .inl ⟨hu.symm, ?_⟩
    rw [hu]
    exact List.cons_ne_nil _ _
  . refine .inr ?_
    rw [hu, List.cons_append]

theorem AreLines.char (h : t.AreLines (splitLines u)) (hc : c ≠ '\n') (hcr : c ≠ '\r')
    : AreLines (c :: t) (splitLines (c :: u)) := by
  have hlines : lines (c :: t) = match t.lines with
      | [] => [[c]]
      | line :: rest => (c :: line) :: rest := by
    rw [lines, if_neg (not_or.mpr ⟨hc, hcr⟩)]
    intro cs hcs
    exact absurd hcs hcr
  unfold AreLines
  rw [splitLines, hlines]
  rcases h with ⟨hu, hsome⟩ | hu
  . rw [hu]
    cases ht : t.lines with
    | nil => exact absurd ht hsome
    | cons line rest => simp [hc]
  . rw [hu]
    cases t.lines with
    | nil => simp [hc]
    | cons line rest => simp [hc]

theorem areLines_normalizeBreaks (t : Text) : t.AreLines (splitLines (normalizeBreaks t)) := by
  fun_induction normalizeBreaks t with
  | case1 => exact .inr rfl
  | case2 => exact .inr rfl
  | case3 cs ih =>
    rw [splitLines_newline]
    exact ih.newline rfl
  | case4 c cs hlast hpair ih =>
    by_cases hbreak : c = '\n' ∨ c = '\r'
    . have hlines : lines (c :: cs) = [] :: lines cs := by
        rw [lines, if_pos hbreak]
        exact hpair
      have hnewline : (if c = '\r' then '\n' else c) = '\n' := by
        rcases hbreak with rfl | rfl
        . rfl
        . rfl
      rw [hnewline, splitLines_newline]
      exact ih.newline hlines
    . rw [not_or] at hbreak
      rw [if_neg hbreak.2]
      exact ih.char hbreak.1 hbreak.2

theorem nonblankLines_eq_filter (t : Text) : t.nonblankLines = t.lines.filter fun line => !line.isBlank := by
  rw [nonblankLines]
  rcases areLines_normalizeBreaks t with ⟨hlines, _⟩ | hlines
  . rw [hlines]
  . rw [hlines, List.filter_append]
    exact List.append_nil _

end IdentSearch.Text
