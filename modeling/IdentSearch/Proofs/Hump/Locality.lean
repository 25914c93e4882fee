import IdentSearch.Hump
import IdentSearch.Proofs.Span.Reading

/-!
Where humps begin and end is decided by neighbouring characters alone, although the scan looks at all
characters of the hump that it has open: inside a hump a capital only follows capitals.
-/

namespace IdentSearch
namespace Breaking

def IsWordAt (t : Text) (i : Nat) : Prop := ∃ c, t[i]? = some c ∧ Text.isWordChar c = true

/--
Whether the second of two neighbours in a word starts a hump, judged by them and the character that
follows.
-/
def cutsBetween (b : Breaking) (previous c : Char) (next : Option Char) : Bool :=
  Text.isDigit previous != Text.isDigit c ||
    match b with
    | .characters => Text.isUpper c
    | .words => Text.isUpper c && (!Text.isUpper previous || next.any Text.isLower)

def StartsAt (b : Breaking) (t : Text) (i : Nat) : Prop :=
  ∃ c, t[i]? = some c ∧ Text.isWordChar c = true ∧
    (i = 0 ∨ ∃ previous, t[i - 1]? = some previous ∧
      (Text.isWordChar previous = false ∨ b.cutsBetween previous c t[i + 1]? = true))

/-- A hump before a position goes no further: the text ends, a hump starts or no word goes on there. -/
def StopsAt (b : Breaking) (t : Text) (i : Nat) : Prop :=
  i = t.length ∨ b.StartsAt t i ∨ ∃ c, t[i]? = some c ∧ Text.isWordChar c = false

structure CutsLocally (b : Breaking) (t : Text) (spans : Spans) : Prop where
  positive : ∀ s ∈ spans, 0 < s.length
  ordered : spans.Pairwise fun s u => s.stop ≤ u.start
  inside : ∀ s ∈ spans, s.stop ≤ t.length
  covers_iff : ∀ i, spans.Covers i ↔ IsWordAt t i
  starts_iff : ∀ i, (∃ s ∈ spans, s.start = i) ↔ b.StartsAt t i
  stops : ∀ s ∈ spans, b.StopsAt t s.stop
  stops_first : ∀ s ∈ spans, ∀ i, s.start < i → i < s.stop → ¬ b.StopsAt t i

variable {b : Breaking} {t : Text} {i : Nat}

theorem StartsAt.isWordAt (h : b.StartsAt t i) : IsWordAt t i := by
  rcases h with ⟨c, hc, hword, _⟩
  exact ⟨c, hc, hword⟩

theorem IsWordAt.lt_length (h : IsWordAt t i) : i < t.length := by
  rcases h with ⟨c, hc, _⟩
  exact (List.getElem?_eq_some_iff.mp hc).1

theorem not_stopsAt (hword : IsWordAt t i) (hstart : ¬ b.StartsAt t i) : ¬ b.StopsAt t i := by
  rintro (hlen | hs | ⟨c, hc, hnot⟩)
  . exact Nat.ne_of_lt hword.lt_length hlen
  . exact hstart hs
  . rcases hword with ⟨d, hd, hdword⟩
    rw [hc] at hd
    cases hd
    simp [hnot] at hdword

/-! ### Tilings -/

-- The spans tile the words of a text from position `i` on, each of them reaching up to its first stop.
inductive Tiles (b : Breaking) (t : Text) : Nat → Spans → Prop
  | nil {i : Nat} (outside : ∀ j, i ≤ j → ¬ IsWordAt t j) : Tiles b t i []
  | cons {i : Nat} {s : Span} {ss : Spans} (le_start : i ≤ s.start)
      (outside : ∀ j, i ≤ j → j < s.start → ¬ IsWordAt t j) (start : b.StartsAt t s.start)
      (positive : 0 < s.length)
      (inner : ∀ j, s.start < j → j < s.stop → IsWordAt t j ∧ ¬ b.StartsAt t j)
      (stop : b.StopsAt t s.stop) (tail : Tiles b t s.stop ss) : Tiles b t i (s :: ss)

namespace Tiles

variable {s : Span} {spans : Spans}

theorem skip (hnot : ¬ IsWordAt t i) (h : Tiles b t (i + 1) spans) : Tiles b t i spans := by
  cases h with
  | nil outside =>
    apply Tiles.nil
    intro j hj
    cases Nat.eq_or_lt_of_le hj with
    | inl heq => exact heq ▸ hnot
    | inr hlt => exact outside j hlt
  | cons le_start outside start positive inner stop tail =>
    apply Tiles.cons (by omega) _ start positive inner stop tail
    intro j hj hlt
    cases Nat.eq_or_lt_of_le hj with
    | inl heq => exact heq ▸ hnot
    | inr hgt => exact outside j hgt hlt

theorem le_start (h : Tiles b t i spans) (hs : s ∈ spans) : i ≤ s.start := by
  induction h with
  | nil => cases hs
  | cons hle _ _ _ _ _ _ ih =>
    cases hs with
    | head => exact hle
    | tail _ hs =>
      have := ih hs
      simp only [Span.stop] at this
      omega

theorem exists_head (h : Tiles b t i spans) (hword : IsWordAt t i) : ∃ u us, spans = u :: us ∧ u.start = i := by
  cases h with
  | nil outside => exact absurd hword (outside i (Nat.le_refl i))
  | @cons _ u us le_start outside =>
    refine ⟨u, us, rfl, ?_⟩
    by_contra hne
    apply outside i (Nat.le_refl i)
    . omega
    . exact hword

theorem positive (h : Tiles b t i spans) (hs : s ∈ spans) : 0 < s.length := by
  induction h with
  | nil => cases hs
  | cons _ _ _ hpos _ _ _ ih =>
    cases hs with
    | head => exact hpos
    | tail _ hs => exact ih hs

theorem ordered (h : Tiles b t i spans) : spans.Pairwise fun s u => s.stop ≤ u.start := by
  induction h with
  | nil => exact List.Pairwise.nil
  | cons _ _ _ _ _ _ htail ih => exact List.pairwise_cons.mpr ⟨fun u hu => htail.le_start hu, ih⟩

theorem isWordAt_of_covers (h : Tiles b t i spans) (hs : s ∈ spans) {j : Nat} (hj : s.Covers j)
    : IsWordAt t j := by
  induction h with
  | nil => cases hs
  | cons _ _ hstart _ hinner _ _ ih =>
    cases hs with
    | head =>
      cases Nat.eq_or_lt_of_le hj.1 with
      | inl heq => exact heq ▸ hstart.isWordAt
      | inr hlt => exact (hinner j hlt hj.2).1
    | tail _ hs => exact ih hs

theorem stop_le_length (h : Tiles b t i spans) (hs : s ∈ spans) : s.stop ≤ t.length := by
  have hpos := h.positive hs
  have hlast : s.Covers (s.stop - 1) := by
    simp only [Span.covers_iff, Span.stop]
    omega
  have := (h.isWordAt_of_covers hs hlast).lt_length
  omega

theorem textOf_ne_nil (h : Tiles b t i spans) (hs : s ∈ spans) : s.textOf t ≠ [] := by
  have hpos := h.positive hs
  have hstop := h.stop_le_length hs
  apply List.ne_nil_of_length_pos
  rw [Span.textOf, Text.length_slice]
  simp only [Span.stop] at hstop
  omega

theorem covers_of_isWordAt (h : Tiles b t i spans) {j : Nat} (hj : i ≤ j) (hword : IsWordAt t j)
    : spans.Covers j := by
  induction h with
  | nil outside => exact absurd hword (outside j hj)
  | @cons _ s _ _ outside _ _ _ _ _ ih =>
    rw [Spans.covers_cons]
    by_cases hlt : j < s.start
    . exact absurd hword (outside j hj hlt)
    . by_cases hstop : j < s.stop
      . exact .inl ⟨by omega, hstop⟩
      . exact .inr (ih (by omega))

theorem startsAt (h : Tiles b t i spans) (hs : s ∈ spans) : b.StartsAt t s.start := by
  induction h with
  | nil => cases hs
  | cons _ _ hstart _ _ _ _ ih =>
    cases hs with
    | head => exact hstart
    | tail _ hs => exact ih hs

theorem not_startsAt_inner (h : Tiles b t i spans) (hs : s ∈ spans) {j : Nat} (hgt : s.start < j)
    (hlt : j < s.stop) : ¬ b.StartsAt t j := by
  induction h with
  | nil => cases hs
  | cons _ _ _ _ hinner _ _ ih =>
    cases hs with
    | head => exact (hinner j hgt hlt).2
    | tail _ hs => exact ih hs

theorem stopsAt (h : Tiles b t i spans) (hs : s ∈ spans) : b.StopsAt t s.stop := by
  induction h with
  | nil => cases hs
  | cons _ _ _ _ _ hstop _ ih =>
    cases hs with
    | head => exact hstop
    | tail _ hs => exact ih hs

theorem exists_start (h : Tiles b t i spans) {j : Nat} (hj : i ≤ j) (hstart : b.StartsAt t j)
    : ∃ s ∈ spans, s.start = j := by
  rcases h.covers_of_isWordAt hj hstart.isWordAt with ⟨s, hs, hcov⟩
  refine ⟨s, hs, ?_⟩
  cases Nat.eq_or_lt_of_le hcov.1 with
  | inl heq => exact heq
  | inr hlt => exact absurd hstart (h.not_startsAt_inner hs hlt hcov.2)

theorem cutsLocally (h : Tiles b t 0 spans) : b.CutsLocally t spans where
  positive s hs := h.positive hs
  ordered := h.ordered
  inside s hs := h.stop_le_length hs
  covers_iff j := by
    constructor
    . rintro ⟨s, hs, hj⟩
      exact h.isWordAt_of_covers hs hj
    . exact h.covers_of_isWordAt (Nat.zero_le j)
  starts_iff j := by
    constructor
    . rintro ⟨s, hs, rfl⟩
      exact h.startsAt hs
    . exact h.exists_start (Nat.zero_le j)
  stops s hs := h.stopsAt hs
  stops_first s hs j hgt hlt := by
    apply not_stopsAt
    . exact h.isWordAt_of_covers hs ⟨Nat.le_of_lt hgt, hlt⟩
    . exact h.not_startsAt_inner hs hgt hlt

end Tiles

/-! ### The scan -/

structure IsOpen (b : Breaking) (t : Text) (i : Nat) (h : OpenHump) : Prop where
  stop : h.start + h.length = i
  positive : 0 < h.length
  start : b.StartsAt t h.start
  inner : ∀ j, h.start < j → j < i → IsWordAt t j ∧ ¬ b.StartsAt t j
  latest : t[i - 1]? = some h.latest
  word : Text.isWordChar h.latest = true
  allUpper : Text.isUpper h.latest = true → h.allUpper = true

variable {h : OpenHump} {c : Char}

theorem IsOpen.cuts_eq (hopen : b.IsOpen t i h) (c : Char) (next : Option Char)
    : b.cuts h c next = b.cutsBetween h.latest c next := by
  unfold cuts cutsBetween
  cases b with
  | characters => rfl
  | words =>
    by_cases hupper : Text.isUpper h.latest = true
    . simp only [hopen.allUpper hupper, Bool.true_and]
    . simp [hupper]

theorem IsOpen.startsAt_iff (hopen : b.IsOpen t i h) (hc : t[i]? = some c)
    (hword : Text.isWordChar c = true) : b.StartsAt t i ↔ b.cuts h c t[i + 1]? = true := by
  have hi : i ≠ 0 := by
    have := hopen.stop
    have := hopen.positive
    omega
  simp [StartsAt, hc, hword, hi, hopen.latest, hopen.word, hopen.cuts_eq]

theorem isOpen_single (hstart : b.StartsAt t i) (hc : t[i]? = some c)
    : b.IsOpen t (i + 1) (.single i c) := by
  constructor
  . rfl
  . exact Nat.one_pos
  . exact hstart
  . intro j hgt hlt
    simp only [OpenHump.single] at hgt
    omega
  . exact hc
  . rcases hstart with ⟨d, hd, hword, _⟩
    rw [hc] at hd
    cases hd
    exact hword
  . exact id

-- Only here a capital joins an open hump. It does so because the latest character was a capital, and
-- then all characters of the hump were.
theorem IsOpen.extend (hopen : b.IsOpen t i h) (hc : t[i]? = some c)
    (hword : Text.isWordChar c = true) (hcut : b.cuts h c t[i + 1]? = false)
    : b.IsOpen t (i + 1) (h.extend c) := by
  constructor
  . simp only [OpenHump.extend]
    have := hopen.stop
    omega
  . exact Nat.succ_pos _
  . exact hopen.start
  . intro j hgt hlt
    cases Nat.eq_or_lt_of_le (Nat.le_of_lt_succ hlt) with
    | inl heq =>
      subst heq
      refine ⟨⟨c, hc, hword⟩, ?_⟩
      rw [hopen.startsAt_iff hc hword, hcut]
      exact Bool.false_ne_true
    | inr hlt => exact hopen.inner j hgt hlt
  . exact hc
  . exact hword
  . intro hupper
    simp only [OpenHump.extend] at hupper ⊢
    rw [hopen.cuts_eq] at hcut
    cases b with
    | characters => simp [cutsBetween, hupper] at hcut
    | words =>
      have hlatest : Text.isUpper h.latest = true := by
        by_contra hnot
        simp [cutsBetween, hupper, hnot] at hcut
      rw [hopen.allUpper hlatest, hupper, Bool.and_self]

theorem IsOpen.tiles (hopen : b.IsOpen t i h) (hstop : b.StopsAt t i) {spans : Spans}
    (htail : Tiles b t i spans) : Tiles b t h.start (h.span :: spans) := by
  have hspan : h.span.stop = i := hopen.stop
  show Tiles b t h.span.start (h.span :: spans)
  apply Tiles.cons (Nat.le_refl _) _ hopen.start hopen.positive
  . rw [hspan]
    exact hopen.inner
  . exact hspan ▸ hstop
  . exact hspan ▸ htail
  . intro j hge hlt
    exact absurd hlt (Nat.not_lt.mpr hge)

/-- What the scan knows when it has come to position `i`. -/
def Scanned (b : Breaking) (t : Text) (i : Nat) : Option OpenHump → Prop
  | none => i = 0 ∨ ∃ previous, t[i - 1]? = some previous ∧ Text.isWordChar previous = false
  | some h => b.IsOpen t i h

def scanStart (i : Nat) : Option OpenHump → Nat
  | none => i
  | some h => h.start

theorem Scanned.startsAt (hscan : b.Scanned t i none) (hc : t[i]? = some c)
    (hword : Text.isWordChar c = true) : b.StartsAt t i := by
  refine ⟨c, hc, hword, ?_⟩
  rcases hscan with hzero | ⟨previous, hprev, hnot⟩
  . exact .inl hzero
  . exact .inr ⟨previous, hprev, .inl hnot⟩

theorem scanned_none_of_not_word (hc : t[i]? = some c) (hword : Text.isWordChar c = false)
    : b.Scanned t (i + 1) none :=
  .inr ⟨c, hc, hword⟩

theorem not_isWordAt (hc : t[i]? = some c) (hword : Text.isWordChar c = false) : ¬ IsWordAt t i := by
  rintro ⟨d, hd, hdword⟩
  rw [hc] at hd
  cases hd
  simp [hword] at hdword

theorem humps.go_tiles (rest : Text) (open? : Option OpenHump) (hrest : t.drop i = rest)
    (hscan : b.Scanned t i open?) : Tiles b t (scanStart i open?) (humps.go b i open? rest) := by
  induction rest generalizing i open? with
  | nil =>
    have hlen : t.length ≤ i := List.drop_eq_nil_iff.mp hrest
    have hnil : Tiles b t i [] := by
      apply Tiles.nil
      intro j hj hword
      have := hword.lt_length
      omega
    cases open? with
    | none => exact hnil
    | some h =>
      have hlatest := (List.getElem?_eq_some_iff.mp hscan.latest).1
      apply IsOpen.tiles hscan _ hnil
      exact .inl (by omega)
  | cons c cs ih =>
    have hc : t[i]? = some c := by
      rw [← List.head?_drop, hrest, List.head?_cons]
    have hcs : t.drop (i + 1) = cs := by
      rw [← List.tail_drop, hrest, List.tail_cons]
    have hnext : cs.head? = t[i + 1]? := by
      rw [← hcs, List.head?_drop]
    cases open? with
    | none =>
      unfold humps.go
      by_cases hword : Text.isWordChar c = true
      . rw [if_pos hword]
        exact ih (some (.single i c)) hcs (isOpen_single (hscan.startsAt hc hword) hc)
      . rw [if_neg hword]
        rw [Bool.not_eq_true] at hword
        apply Tiles.skip (not_isWordAt hc hword)
        exact ih none hcs (scanned_none_of_not_word hc hword)
    | some h =>
      unfold humps.go
      split
      . next hword =>
        rw [Bool.not_eq_true'] at hword
        apply IsOpen.tiles hscan (.inr (.inr ⟨c, hc, hword⟩))
        apply Tiles.skip (not_isWordAt hc hword)
        exact ih none hcs (scanned_none_of_not_word hc hword)
      . next hword =>
        rw [Bool.not_eq_true', Bool.not_eq_false] at hword
        rw [hnext]
        split
        . next hcut =>
          have hstart := (IsOpen.startsAt_iff hscan hc hword).mpr hcut
          apply IsOpen.tiles hscan (.inr (.inl hstart))
          exact ih (some (.single i c)) hcs (isOpen_single hstart hc)
        . next hcut =>
          rw [Bool.not_eq_true] at hcut
          exact ih (some (h.extend c)) hcs (IsOpen.extend hscan hc hword hcut)

theorem humps_tiles (b : Breaking) (t : Text) : Tiles b t 0 (b.humps t) :=
  humps.go_tiles t none List.drop_zero (.inl rfl)

theorem humps_cutsLocally (b : Breaking) (t : Text) : b.CutsLocally t (b.humps t) :=
  (humps_tiles b t).cutsLocally

end Breaking
end IdentSearch
