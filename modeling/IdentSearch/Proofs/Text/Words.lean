import IdentSearch.Proofs.Text.Parts
import IdentSearch.Text.CharSet

/-!
The words of a text are what is left of it between the characters that cannot be part of a word.
-/

namespace IdentSearch.Text

variable {isSeparator isSeparator' : Char → Bool} {t : Text}

def runOf (start : Nat) (taken : Text) : Option Piece := if taken.isEmpty then none else some ⟨start, taken⟩

theorem words.finished_runOf (start : Nat) (taken : Text)
    : finished (runOf start taken) = [(⟨start, taken.reverse⟩ : Piece)].filter fun p => !p.text.isEmpty := by
  cases taken with
  | nil => rfl
  | cons c cs => simp [runOf, finished]

theorem words.grown_runOf {start i : Nat} {taken : Text} (hstart : taken = [] → start = i) (c : Char)
    : some (grown (runOf start taken) i c) = runOf start (c :: taken) := by
  cases taken with
  | nil => simp [runOf, grown, hstart rfl]
  | cons d ds => rfl

theorem words.go_runOf {start i : Nat} {taken : Text} (hstart : taken = [] → start = i)
    : go (runOf start taken) i t
        =
      (pieces.go false (fun c => !isWordChar c) start taken i t).filter fun p => !p.text.isEmpty := by
  induction t generalizing start taken i with
  | nil =>
    unfold go pieces.go
    rw [finished_runOf, pieces.finished_false]
  | cons c cs ih =>
    unfold go pieces.go
    rw [pieces.finished_false]
    by_cases hword : isWordChar c = true
    . rw [if_pos hword, grown_runOf hstart, ih]
      . simp [hword]
      . simp
    . have hnone : (none : Option Piece) = runOf (i + 1) [] := rfl
      rw [if_neg hword, finished_runOf, hnone, ih fun _ => rfl, ← List.filter_append, List.singleton_append]
      simp [hword]

theorem words_eq_splitNonempty (t : Text) : t.words = t.splitNonempty fun c => !isWordChar c := by
  rw [splitNonempty_eq_filter]
  have hgo : words.go (runOf 0 []) 0 t = _ := words.go_runOf fun _ => rfl
  exact hgo

theorem pieces.go_congr {dropEmpty : Bool} {start i : Nat} {taken : Text}
    (h : ∀ c ∈ t, isSeparator c = isSeparator' c)
    : go dropEmpty isSeparator start taken i t = go dropEmpty isSeparator' start taken i t := by
  induction t generalizing start taken i with
  | nil => rfl
  | cons c cs ih =>
    rw [List.forall_mem_cons] at h
    unfold go
    rw [h.1, ih h.2, ih h.2]

theorem splitNonempty_congr (h : ∀ c ∈ t, isSeparator c = isSeparator' c)
    : t.splitNonempty isSeparator = t.splitNonempty isSeparator' :=
  pieces.go_congr h

def separators (t : Text) : CharSet := CharSet.ofList (t.filter fun c => !isWordChar c)

theorem words_eq_splitNonempty_separators (t : Text) : t.words = t.splitNonempty t.separators.contains := by
  rw [words_eq_splitNonempty]
  apply splitNonempty_congr
  intro c hc
  rw [separators, CharSet.contains_ofList, Bool.eq_iff_iff, List.contains_iff_mem, List.mem_filter]
  simp [hc]

end IdentSearch.Text
