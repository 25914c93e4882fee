import IdentSearch.Text.Split
import IdentSearch.Proofs.Span.Normal

/-!
The pieces into which texts are cut. The container parts of a candidate are its longest runs without a
separator, and each of them stands where it says.
-/

namespace IdentSearch

def Piece.span (p : Piece) : Span := ⟨p.start, p.text.length⟩

namespace Text

theorem all_dropWhile (p : Char → Bool) (t : Text) : (t.dropWhile p).all p = t.all p := by
  induction t with
  | nil => rfl
  | cons c cs ih =>
    rw [List.dropWhile_cons]
    split
    . next hc => rw [ih, List.all_cons, hc, Bool.true_and]
    . rfl

theorem isBlank_trim (t : Text) : t.trim.isBlank = t.isBlank := by
  simp only [trim, trimRight, trimLeft, isBlank, List.all_reverse, all_dropWhile]

/-! ### Words -/

theorem words.go_text_ne_nil {run : Option Piece} (hrun : ∀ p, run = some p → p.text ≠ []) {i : Nat}
    {t : Text} : ∀ p ∈ go run i t, p.text ≠ [] := by
  have hfinished : ∀ r : Option Piece, (∀ p, r = some p → p.text ≠ []) →
      ∀ p ∈ finished r, p.text ≠ [] := by
    intro r hr p hp
    cases r with
    | none => cases hp
    | some q =>
      rw [List.mem_singleton.mp hp]
      intro hnil
      exact hr q rfl (List.reverse_eq_nil_iff.mp hnil)
  induction t generalizing run i with
  | nil => exact hfinished run hrun
  | cons c cs ih =>
    unfold go
    split
    . apply ih
      intro p hp
      cases hp
      cases run with
      | none => exact List.cons_ne_nil _ _
      | some q => exact List.cons_ne_nil _ _
    . intro p hp
      rcases List.mem_append.mp hp with hp | hp
      . exact hfinished run hrun p hp
      . apply ih _ p hp
        intro q hq
        cases hq

theorem text_ne_nil_of_mem_words {t : Text} {p : Piece} (h : p ∈ words t) : p.text ≠ [] := by
  apply words.go_text_ne_nil _ p h
  intro q hq
  cases hq

/-! ### Container parts -/

structure CutsInto (isSeparator : Char → Bool) (t : Text) (parts : List Piece) : Prop where
  normal : Spans.IsNormal (parts.map (·.span))
  covers_iff : ∀ i, Spans.Covers (parts.map (·.span)) i ↔ ∃ c, t[i]? = some c ∧ isSeparator c = false
  reads : ∀ p ∈ parts, p.span.textOf t = p.text

-- The pieces of a text that starts at a position, empty ones included, one separator between two of them.
inductive Cut (isSeparator : Char → Bool) : Nat → Text → List Piece → Prop
  | last {start : Nat} {t : Text} (inner : ∀ c ∈ t, isSeparator c = false)
    : Cut isSeparator start t [⟨start, t⟩]
  | cons {start : Nat} {t rest : Text} {c : Char} {ps : List Piece}
      (inner : ∀ c ∈ t, isSeparator c = false) (separator : isSeparator c = true)
      (tail : Cut isSeparator (start + t.length + 1) rest ps)
    : Cut isSeparator start (t ++ c :: rest) (⟨start, t⟩ :: ps)

variable {isSeparator : Char → Bool} {start i : Nat} {taken t : Text} {ps : List Piece} {p : Piece}

theorem pieces.finished_false : finished false start taken i = [⟨start, taken.reverse⟩] := by
  simp [finished]

theorem pieces.finished_true (hi : i = start + taken.length)
    : finished true start taken i = (finished false start taken i).filter fun p => !p.text.isEmpty := by
  rw [finished_false]
  cases taken with
  | nil => simp [finished, hi]
  | cons c cs => simp [finished, hi]

-- A piece is empty just when nothing was taken since the last separator.
theorem pieces.go_true (hi : i = start + taken.length)
    : go true isSeparator start taken i t
        =
      (go false isSeparator start taken i t).filter fun p => !p.text.isEmpty := by
  induction t generalizing start taken i with
  | nil => exact finished_true hi
  | cons c cs ih =>
    unfold go
    split
    . rw [List.filter_append, finished_true hi]
      congr 1
      apply ih
      rfl
    . apply ih
      rw [List.length_cons]
      omega

theorem splitNonempty_eq_filter (isSeparator : Char → Bool) (t : Text)
    : t.splitNonempty isSeparator = (t.split isSeparator).filter fun p => !p.text.isEmpty :=
  pieces.go_true rfl

-- What was taken of the current piece belongs to the text that is cut, so that the piece is not cut itself.
theorem pieces.go_cut (hi : i = start + taken.length) (htaken : ∀ c ∈ taken, isSeparator c = false)
    : Cut isSeparator start (taken.reverse ++ t) (go false isSeparator start taken i t) := by
  induction t generalizing start taken i with
  | nil =>
    unfold go
    rw [List.append_nil, finished_false]
    apply Cut.last
    simpa using htaken
  | cons c cs ih =>
    unfold go
    split
    . next hc =>
      rw [finished_false]
      apply Cut.cons
      . simpa using htaken
      . exact hc
      . rw [List.length_reverse, ← hi]
        have hrest : Cut isSeparator (i + 1) ([].reverse ++ cs) (go false isSeparator (i + 1) [] (i + 1) cs) :=
          ih rfl (by simp)
        exact hrest
    . next hc =>
      have hlonger : taken.reverse ++ c :: cs = (c :: taken).reverse ++ cs := by
        simp
      rw [hlonger]
      apply ih
      . rw [List.length_cons]
        omega
      . intro d hd
        rcases List.mem_cons.mp hd with rfl | hd
        . exact Bool.eq_false_iff.mpr hc
        . exact htaken d hd

theorem split_cut (isSeparator : Char → Bool) (t : Text) : Cut isSeparator 0 t (t.split isSeparator) := by
  have hgo : Cut isSeparator 0 ([].reverse ++ t) (pieces.go false isSeparator 0 [] 0 t) :=
    pieces.go_cut rfl (by simp)
  exact hgo

namespace Cut

theorem start_le (h : Cut isSeparator start t ps) (hp : p ∈ ps) : start ≤ p.start := by
  induction h with
  | last =>
    cases List.mem_singleton.mp hp
    exact Nat.le_refl _
  | cons _ _ _ ih =>
    rcases List.mem_cons.mp hp with rfl | hp
    . exact Nat.le_refl _
    . have := ih hp
      omega

theorem separated (h : Cut isSeparator start t ps)
    : (ps.map (·.span)).Pairwise fun s u => s.stop < u.start := by
  induction h with
  | last => exact List.pairwise_singleton _ _
  | cons _ _ htail ih =>
    rw [List.map_cons, List.pairwise_cons]
    refine ⟨?_, ih⟩
    intro s hs
    rcases List.mem_map.mp hs with ⟨p, hp, rfl⟩
    have := htail.start_le hp
    simp only [Piece.span, Span.stop]
    omega

theorem exists_inner (inner : ∀ c ∈ t, isSeparator c = false) (hi : i < t.length)
    : ∃ c, t[i]? = some c ∧ isSeparator c = false := by
  refine ⟨t[i], List.getElem?_eq_getElem hi, ?_⟩
  apply inner
  exact List.getElem_mem hi

-- A position is left of the separator that ends the first piece, is that separator or is right of it.
theorem covers_iff (h : Cut isSeparator start t ps)
    : Spans.Covers (ps.map (·.span)) i
        ↔
      start ≤ i ∧ ∃ c, t[i - start]? = some c ∧ isSeparator c = false := by
  induction h with
  | @last start t hinner =>
    rw [List.map_singleton, Spans.covers_cons, Span.covers_iff]
    simp only [Spans.not_covers_nil, or_false, Piece.span]
    constructor
    . rintro ⟨hle, hlt⟩
      exact ⟨hle, exists_inner hinner (by omega)⟩
    . rintro ⟨hle, c, hc, _⟩
      have := (List.getElem?_eq_some_iff.mp hc).1
      omega
  | @cons start t rest sep ps hinner hsep _ ih =>
    rw [List.map_cons, Spans.covers_cons, Span.covers_iff, ih]
    simp only [Piece.span]
    rcases Nat.lt_trichotomy i (start + t.length) with hlt | heq | hgt
    . constructor
      . rintro (⟨hle, _⟩ | ⟨hle, _⟩)
        . rw [List.getElem?_append_left (by omega)]
          exact ⟨hle, exists_inner hinner (by omega)⟩
        . omega
      . rintro ⟨hle, _⟩
        exact .inl ⟨hle, hlt⟩
    . subst heq
      rw [Nat.add_sub_cancel_left, List.getElem?_append_right (Nat.le_refl _), Nat.sub_self]
      constructor
      . rintro (⟨_, hlt⟩ | ⟨hle, _⟩)
        . omega
        . omega
      . rintro ⟨_, c, hc, hnot⟩
        cases hc
        rw [hsep] at hnot
        cases hnot
    . have hindex : i - start - t.length = i - (start + t.length + 1) + 1 := by
        omega
      rw [List.getElem?_append_right (by omega), hindex, List.getElem?_cons_succ]
      constructor
      . rintro (⟨_, hlt⟩ | ⟨_, hrest⟩)
        . omega
        . exact ⟨by omega, hrest⟩
      . rintro ⟨_, hrest⟩
        exact .inr ⟨by omega, hrest⟩

theorem reads {u : Text} (h : Cut isSeparator start t ps) (hu : u.drop start = t) (hp : p ∈ ps)
    : p.span.textOf u = p.text := by
  induction h with
  | last =>
    rw [List.mem_singleton.mp hp, Span.textOf, slice]
    simp only [Piece.span]
    rw [hu, List.take_length]
  | @cons start t rest c ps _ _ _ ih =>
    rcases List.mem_cons.mp hp with rfl | hp
    . rw [Span.textOf, slice]
      simp only [Piece.span]
      rw [hu, List.take_left']
      rfl
    . apply ih _ hp
      rw [← List.drop_drop, ← List.drop_drop, hu, List.drop_left' rfl, List.drop_one, List.tail_cons]

end Cut

theorem splitNonempty_cutsInto (isSeparator : Char → Bool) (t : Text)
    : CutsInto isSeparator t (t.splitNonempty isSeparator) := by
  have hcut := split_cut isSeparator t
  have hsub : (t.splitNonempty isSeparator).Sublist (t.split isSeparator) := by
    rw [splitNonempty_eq_filter]
    exact List.filter_sublist
  have hspans : (t.splitNonempty isSeparator).map (·.span)
      = ((t.split isSeparator).map (·.span)).filter fun s => !s.isEmpty := by
    rw [List.filter_map, splitNonempty_eq_filter]
    congr 1
    apply List.filter_congr
    intro p _
    cases hp : p.text <;> simp [Piece.span, Span.isEmpty, hp]
  constructor
  . constructor
    . intro s hs
      rw [hspans, List.mem_filter] at hs
      have hlength := hs.2
      simp only [Span.isEmpty, Bool.not_eq_true', beq_eq_false_iff_ne, ne_eq] at hlength
      exact Nat.pos_of_ne_zero hlength
    . exact hcut.separated.sublist (hsub.map _)
  . intro i
    rw [hspans, Spans.covers_filter_nonempty, hcut.covers_iff]
    simp
  . intro p hp
    exact hcut.reads rfl (hsub.subset hp)

theorem CutsInto.stop_le {parts : List Piece} (h : CutsInto isSeparator t parts) (hp : p ∈ parts)
    : p.start + p.text.length ≤ t.length := by
  have hcovers : ∀ i, Spans.Covers (parts.map (·.span)) i → 0 ≤ i ∧ i < t.length := by
    intro i hi
    rcases (h.covers_iff i).mp hi with ⟨c, hc, _⟩
    exact ⟨Nat.zero_le i, (List.getElem?_eq_some_iff.mp hc).1⟩
  exact (h.normal.inside hcovers p.span (List.mem_map_of_mem hp)).2

theorem CutsInto.eq_splitNonempty {parts : List Piece} (h : CutsInto isSeparator t parts)
    : t.splitNonempty isSeparator = parts := by
  have hsplit := splitNonempty_cutsInto isSeparator t
  have hspans : (t.splitNonempty isSeparator).map (·.span) = parts.map (·.span) := by
    apply Spans.eq_of_covers_iff hsplit.normal h.normal
    intro i
    rw [hsplit.covers_iff, h.covers_iff]
  have hread : ∀ ps : List Piece, (∀ p ∈ ps, p.span.textOf t = p.text)
      → (ps.map (·.span)).map (fun s => (⟨s.start, s.textOf t⟩ : Piece)) = ps := by
    intro ps hps
    rw [List.map_map]
    conv => rhs; rw [← List.map_id ps]
    apply List.map_congr_left
    intro p hp
    rw [Function.comp_apply, hps p hp]
    rfl
  rw [← hread _ hsplit.reads, ← hread _ h.reads, hspans]

end Text
end IdentSearch
