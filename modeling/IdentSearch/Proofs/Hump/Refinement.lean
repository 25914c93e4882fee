import IdentSearch.Proofs.Hump.Locality

/-!
Where words are cut, characters are cut too. So every word hump is a row of character humps.
-/

namespace IdentSearch

namespace Spans

def Fill (stop : Nat) : Nat → Spans → Prop
  | start, [] => start = stop
  | start, s :: ss => s.start = start ∧ Fill stop s.stop ss

theorem Fill.le {start stop : Nat} {spans : Spans} (h : Fill stop start spans) : start ≤ stop := by
  induction spans generalizing start with
  | nil => exact Nat.le_of_eq h
  | cons s ss ih =>
    have hrest := ih h.2
    have hstart := h.1
    simp only [Span.stop] at hrest
    omega

theorem Fill.flatten_textOf {start stop : Nat} {spans : Spans} (h : Fill stop start spans) (t : Text)
    : (spans.map (·.textOf t)).flatten = t.slice start (stop - start) := by
  induction spans generalizing start with
  | nil =>
    cases h
    simp [Text.slice]
  | cons s ss ih =>
    rcases h with ⟨rfl, hrest⟩
    have hle := hrest.le
    simp only [Span.stop] at hle
    have hlength : stop - s.start = s.length + (stop - s.stop) := by
      simp only [Span.stop]
      omega
    rw [List.map_cons, List.flatten_cons, ih hrest, hlength]
    unfold Span.textOf Text.slice Span.stop
    rw [List.take_add, List.drop_drop]

end Spans

structure Span.IsRowOf (t : Text) (s : Span) (row : Spans) : Prop where
  nonempty : row ≠ []
  fill : Spans.Fill s.stop s.start row
  reads : (row.map (·.textOf t)).flatten = s.textOf t

namespace Breaking

variable {b : Breaking} {t : Text} {i j : Nat} {spans ss us : Spans}

theorem cutsBetween_characters {previous c : Char} {next : Option Char}
    (h : words.cutsBetween previous c next = true) : characters.cutsBetween previous c next = true := by
  unfold cutsBetween at h ⊢
  rw [Bool.or_eq_true, Bool.and_eq_true] at h
  rw [Bool.or_eq_true]
  exact h.imp_right And.left

theorem StartsAt.characters (h : words.StartsAt t i) : characters.StartsAt t i := by
  rcases h with ⟨c, hc, hword, hcut⟩
  refine ⟨c, hc, hword, ?_⟩
  rcases hcut with hzero | ⟨previous, hprevious, hnot | hcut⟩
  . exact .inl hzero
  . exact .inr ⟨previous, hprevious, .inl hnot⟩
  . exact .inr ⟨previous, hprevious, .inr (cutsBetween_characters hcut)⟩

theorem StopsAt.characters (h : words.StopsAt t i) : characters.StopsAt t i := by
  rcases h with hend | hstart | hnot
  . exact .inl hend
  . exact .inr (.inl hstart.characters)
  . exact .inr (.inr hnot)

namespace Tiles

theorem advance (h : Tiles b t i spans) (hle : i ≤ j) (hnot : ∀ k, i ≤ k → k < j → ¬ IsWordAt t k)
    : Tiles b t j spans := by
  cases h with
  | nil outside =>
    apply Tiles.nil
    intro k hk
    apply outside
    omega
  | cons le_start outside start positive inner stop tail =>
    apply Tiles.cons _ _ start positive inner stop tail
    . by_contra hlt
      exact hnot _ le_start (by omega) start.isWordAt
    . intro k hk
      apply outside
      omega

-- A span of the tiling does not reach over the end of the row, because it would stop there.
theorem exists_row (h : Tiles b t i spans) (hlt : i < j) (hword : ∀ k, i ≤ k → k < j → IsWordAt t k)
    (hstop : b.StopsAt t j)
    : ∃ row rest, spans = row ++ rest ∧ row ≠ [] ∧ Spans.Fill j i row ∧ Tiles b t j rest := by
  induction h with
  | nil outside => exact absurd (hword _ (Nat.le_refl _) hlt) (outside _ (Nat.le_refl _))
  | @cons i s ss le_start outside start positive inner stop tail ih =>
    have hstart : s.start = i := by
      have hhere := hword i (Nat.le_refl i) hlt
      rcases (Tiles.cons le_start outside start positive inner stop tail).exists_head hhere
        with ⟨_, _, heq, hu⟩
      cases heq
      exact hu
    have hle : s.stop ≤ j := by
      by_contra hgt
      have hinner := inner j (by omega) (by omega)
      exact not_stopsAt hinner.1 hinner.2 hstop
    cases Nat.eq_or_lt_of_le hle with
    | inl heq =>
      subst heq
      exact ⟨[s], ss, rfl, List.cons_ne_nil s [], ⟨hstart, rfl⟩, tail⟩
    | inr hlt' =>
      have hinside : ∀ k, s.stop ≤ k → k < j → IsWordAt t k := by
        intro k hk
        apply hword
        simp only [Span.stop] at hk
        omega
      rcases ih hlt' hinside with ⟨row, rest, rfl, _, hfill, hrest⟩
      exact ⟨s :: row, rest, rfl, List.cons_ne_nil s row, ⟨hstart, hfill⟩, hrest⟩

theorem exists_rows (hwords : Tiles .words t i ss) (hcharacters : Tiles .characters t i us)
    : ∃ rows, rows.flatten = us ∧ List.Forall₂ (Span.IsRowOf t) ss rows := by
  induction hwords generalizing us with
  | nil outside =>
    cases hcharacters with
    | nil => exact ⟨[], rfl, List.Forall₂.nil⟩
    | cons le_start _ start => exact absurd start.isWordAt (outside _ le_start)
  | @cons i s ss le_start outside start positive inner stop tail ih =>
    have hword : ∀ k, s.start ≤ k → k < s.stop → IsWordAt t k := by
      intro k hge hlt
      cases Nat.eq_or_lt_of_le hge with
      | inl heq => exact heq ▸ start.isWordAt
      | inr hgt => exact (inner k hgt hlt).1
    have hlt : s.start < s.stop := by
      simp only [Span.stop]
      omega
    rcases (hcharacters.advance le_start outside).exists_row hlt hword stop.characters
      with ⟨row, rest, rfl, hne, hfill, hrest⟩
    rcases ih hrest with ⟨rows, rfl, hrows⟩
    refine ⟨row :: rows, rfl, List.Forall₂.cons ⟨hne, hfill, ?_⟩ hrows⟩
    rw [hfill.flatten_textOf, Span.stop, Nat.add_sub_cancel_left]
    rfl

end Tiles

theorem wordHumps_rows (t : Text)
    : ∃ rows, rows.flatten = characterHumps t ∧ List.Forall₂ (Span.IsRowOf t) (wordHumps t) rows :=
  (humps_tiles .words t).exists_rows (humps_tiles .characters t)

end Breaking
end IdentSearch
