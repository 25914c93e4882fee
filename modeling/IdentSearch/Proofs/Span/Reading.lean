import IdentSearch.Proofs.Span.Normal

/-!
What a list of spans reads in a text: the characters at the covered positions, from left to right. It
depends on the covered positions only. Spans in increasing order read one after another.
-/

namespace IdentSearch

namespace Span

def back (n : Nat) (s : Span) : Span := ⟨s.start - n, s.length⟩

@[simp]
theorem back_shift (n : Nat) (s : Span) : (s.shift n).back n = s := by
  simp [back, shift]

theorem textOf_append_drop (s : Span) (t : Text) : s.textOf t ++ t.drop s.stop = t.drop s.start := by
  rw [textOf, Text.slice, stop, ← List.drop_drop, List.take_append_drop]

end Span

namespace Spans

instance (spans : Spans) (i : Nat) : Decidable (spans.Covers i) := by
  unfold Covers
  infer_instance

def read (spans : Spans) (t : Text) : Text :=
  go 0 t
where
  go (i : Nat) : Text → Text
    | [] => []
    | c :: cs => if spans.Covers i then c :: go (i + 1) cs else go (i + 1) cs

namespace read

theorem go_congr {xs ys : Spans} {i : Nat} {t : Text}
    (h : ∀ j, i ≤ j → j < i + t.length → (xs.Covers j ↔ ys.Covers j)) : go xs i t = go ys i t := by
  induction t generalizing i with
  | nil => rfl
  | cons c cs ih =>
    rw [List.length_cons] at h
    unfold go
    rw [ih]
    . simp only [h i (by omega) (by omega)]
    . intro j hj hlt
      exact h j (by omega) (by omega)

theorem go_append {xs : Spans} {i : Nat} {t u : Text}
    : go xs i (t ++ u) = go xs i t ++ go xs (i + t.length) u := by
  induction t generalizing i with
  | nil => simp [go]
  | cons c cs ih =>
    have : i + (c :: cs).length = i + 1 + cs.length := by
      simp only [List.length_cons]
      omega
    rw [List.cons_append, go, go, ih, this]
    split
    . rfl
    . rfl

theorem go_eq_filter {xs : Spans} {i : Nat} {t : Text} {p : Char → Bool}
    (h : ∀ j c, t[j]? = some c → (xs.Covers (i + j) ↔ p c = true)) : go xs i t = t.filter p := by
  induction t generalizing i with
  | nil => rfl
  | cons c cs ih =>
    have hc : xs.Covers i ↔ p c = true := h 0 c rfl
    unfold go
    rw [ih]
    . by_cases hp : p c = true
      . rw [if_pos (hc.mpr hp), List.filter_cons_of_pos hp]
      . rw [if_neg (fun hi => hp (hc.mp hi)), List.filter_cons_of_neg hp]
    . intro j d hd
      have := h (j + 1) d (by simpa using hd)
      rwa [← Nat.add_assoc, Nat.add_right_comm] at this

theorem go_eq_nil {xs : Spans} {i : Nat} {t : Text} (h : ∀ j, i ≤ j → j < i + t.length → ¬ xs.Covers j)
    : go xs i t = [] := by
  have hnone : go xs i t = t.filter fun _ => false := by
    apply go_eq_filter
    intro j c hc
    have := (List.getElem?_eq_some_iff.mp hc).1
    simp only [h (i + j) (by omega) (by omega), Bool.false_eq_true]
  rw [hnone]
  exact List.filter_eq_nil_iff.mpr (by simp)

theorem go_eq_self {xs : Spans} {i : Nat} {t : Text} (h : ∀ j, i ≤ j → j < i + t.length → xs.Covers j)
    : go xs i t = t := by
  have hall : go xs i t = t.filter fun _ => true := by
    apply go_eq_filter
    intro j c hc
    have := (List.getElem?_eq_some_iff.mp hc).1
    simp only [h (i + j) (by omega) (by omega)]
  rw [hall]
  exact List.filter_eq_self.mpr (by simp)

end read

theorem read_congr {xs ys : Spans} (h : ∀ i, xs.Covers i ↔ ys.Covers i) (t : Text)
    : xs.read t = ys.read t := by
  apply read.go_congr
  intro j _ _
  exact h j

theorem read_normalize (spans : Spans) (t : Text) : (normalize spans).read t = spans.read t := by
  apply read_congr
  intro i
  exact covers_normalize

theorem read_eq_filter {spans : Spans} {t : Text} {p : Char → Bool}
    (h : ∀ i c, t[i]? = some c → (spans.Covers i ↔ p c = true)) : spans.read t = t.filter p := by
  apply read.go_eq_filter
  simpa using h

@[simp]
theorem read_nil (t : Text) : read [] t = [] := by
  apply read.go_eq_nil
  simp

theorem read_singleton (s : Span) (t : Text) : read [s] t = s.textOf t := by
  have hsplit : t = t.take s.start ++ (s.textOf t ++ t.drop s.stop) := by
    rw [Span.textOf_append_drop, List.take_append_drop]
  have hlen : (s.textOf t).length = min s.length (t.length - s.start) := Text.length_slice ..
  unfold read
  conv => lhs; rw [hsplit]
  rw [read.go_append, read.go_append, read.go_eq_nil, read.go_eq_self, read.go_eq_nil]
  . simp
  all_goals
    intro j hge hlt
    simp only [covers_cons, not_covers_nil, or_false, Span.covers_iff, Span.stop, hlen,
      List.length_take, List.length_drop] at *
    omega

-- Left of the end of the first span only that span counts, and right of it only the others do.
theorem read_cons {s : Span} {ss : Spans} (h : ∀ u ∈ ss, s.stop ≤ u.start) (t : Text)
    : read (s :: ss) t = s.textOf t ++ read ss t := by
  have hleft : ∀ j, j < s.stop → ¬ Covers ss j := by
    rintro j hj ⟨u, hu, hcov⟩
    have := h u hu
    have := hcov.1
    omega
  have hright : ∀ j, s.stop ≤ j → ¬ s.Covers j := by
    intro j hj hcov
    exact Nat.not_lt.mpr hj hcov.2
  have hdrop : ∀ j, 0 + (t.take s.stop).length ≤ j
      → j < 0 + (t.take s.stop).length + (t.drop s.stop).length → s.stop ≤ j := by
    intro j hge hlt
    simp only [List.length_take, List.length_drop] at hge hlt
    omega
  have hs : s.textOf t = read.go [s] 0 (t.take s.stop) := by
    rw [← read_singleton, read, ← List.take_append_drop s.stop t, read.go_append,
      List.take_append_drop, read.go_eq_nil (t := t.drop s.stop), List.append_nil]
    intro j hge hlt
    simp [hright j (hdrop j hge hlt)]
  have hss : read ss t = read.go ss (0 + (t.take s.stop).length) (t.drop s.stop) := by
    rw [read, ← List.take_append_drop s.stop t, read.go_append, List.take_append_drop,
      read.go_eq_nil (t := t.take s.stop), List.nil_append]
    intro j _ hlt
    apply hleft
    simp only [List.length_take] at hlt
    omega
  rw [hs, hss, read, ← List.take_append_drop s.stop t, read.go_append, List.take_append_drop]
  congr 1
  . apply read.go_congr
    intro j _ hlt
    simp only [List.length_take] at hlt
    simp [hleft j (by omega)]
  . apply read.go_congr
    intro j hge hlt
    simp [hright j (hdrop j hge hlt)]

theorem read_eq_flatten {spans : Spans} (h : spans.Pairwise fun s u => s.stop ≤ u.start) (t : Text)
    : spans.read t = (spans.map (·.textOf t)).flatten := by
  induction spans with
  | nil => simp
  | cons s ss ih =>
    have hs := List.pairwise_cons.mp h
    rw [read_cons hs.1, ih hs.2, List.map_cons, List.flatten_cons]

theorem map_back_map_shift (n : Nat) (spans : Spans) : (spans.map (·.shift n)).map (·.back n) = spans := by
  rw [List.map_map]
  simp [Function.comp_def]

end Spans
end IdentSearch
