import IdentSearch.Chunk
import IdentSearch.Proofs.Hump.Refinement
import IdentSearch.Proofs.Text.Splitting
import IdentSearch.Proofs.Text.Words

/-!
The two ways of cutting a text into humps and the cutting into words find the same runs of word
characters. Character humps do not look over the end of a word: those of a text are those of its words.
-/

namespace IdentSearch

def OpenHump.shift (n : Nat) (h : OpenHump) : OpenHump := ⟨h.start + n, h.length, h.latest, h.allUpper⟩

def Piece.humps (p : Piece) : Spans := (characterHumps p.text).map (·.shift p.start)

namespace Breaking

variable {b : Breaking} {c : Char} {t : Text} {i : Nat} {ps : List Piece}

theorem humps.go_shift (n i : Nat) (open? : Option OpenHump) (t : Text)
    : go b (i + n) (open?.map (·.shift n)) t = (go b i open? t).map (·.shift n) := by
  induction t generalizing i open? with
  | nil =>
    cases open? with
    | none => rfl
    | some h => rfl
  | cons c cs ih =>
    have hnext : i + n + 1 = i + 1 + n := by omega
    cases open? with
    | none =>
      rw [Option.map_none, go, go, hnext, ← ih]
      split
      . rfl
      . rfl
    | some h =>
      have hcuts : b.cuts (h.shift n) c cs.head? = b.cuts h c cs.head? := rfl
      rw [Option.map_some, go, go, hnext, hcuts]
      split
      . rw [List.map_cons, ← ih]
        rfl
      . split
        . rw [List.map_cons, ← ih]
          rfl
        . rw [← ih]
          rfl

-- The character in front of the break is looked at from within its word only, because the scan for
-- character humps does not look ahead.
theorem humps.go_append_cons (hc : Text.isWordChar c = false) (i : Nat) (open? : Option OpenHump) (t rest : Text)
    : go .characters i open? (t ++ c :: rest)
        =
      go .characters i open? t ++ go .characters (i + t.length + 1) none rest := by
  induction t generalizing i open? with
  | nil =>
    cases open? with
    | none => simp [go, hc]
    | some h => simp [go, hc]
  | cons d ds ih =>
    have hlength : i + (d :: ds).length + 1 = i + 1 + ds.length + 1 := by
      rw [List.length_cons]
      omega
    cases open? with
    | none => rw [List.cons_append, go, go, hlength, ih]
    | some h =>
      have hcuts : ∀ next, characters.cuts h d next = characters.cuts h d ds.head? := fun _ => rfl
      rw [List.cons_append, go, go, hlength, hcuts]
      split
      . rw [ih, List.cons_append]
      . split
        . rw [ih, List.cons_append]
        . rw [ih]

theorem go_eq_map_shift (i : Nat) (t : Text)
    : humps.go .characters i none t = (characterHumps t).map (·.shift i) := by
  have hshift := humps.go_shift (b := .characters) i 0 none t
  rw [Nat.zero_add] at hshift
  exact hshift

theorem humps.go_of_cut (h : Text.Cut (fun c => !Text.isWordChar c) i t ps)
    : go .characters i none t = ps.flatMap (·.humps) := by
  induction h with
  | last => rw [List.flatMap_singleton, go_eq_map_shift, Piece.humps]
  | cons _ hc _ ih =>
    rw [Bool.not_eq_true'] at hc
    rw [go_append_cons hc, List.flatMap_cons, go_eq_map_shift, Piece.humps, ih]

theorem flatMap_humps_nonempty (ps : List Piece)
    : (ps.filter fun p => !p.text.isEmpty).flatMap (·.humps) = ps.flatMap (·.humps) := by
  induction ps with
  | nil => rfl
  | cons p ps ih =>
    by_cases hempty : p.text = []
    . have hnone : p.humps = [] := by
        rw [Piece.humps, hempty]
        rfl
      rw [List.filter_cons_of_neg (by simp [hempty]), List.flatMap_cons, hnone, List.nil_append, ih]
    . rw [List.filter_cons_of_pos (by simp [hempty]), List.flatMap_cons, List.flatMap_cons, ih]

theorem characterHumps_eq_flatMap_words (t : Text) : characterHumps t = t.words.flatMap (·.humps) := by
  rw [Text.words_eq_splitNonempty, Text.splitNonempty_eq_filter, flatMap_humps_nonempty]
  exact humps.go_of_cut (Text.split_cut _ t)

theorem normalize_humps (b : Breaking) (t : Text) : Spans.normalize (b.humps t) = t.words.map (·.span) := by
  have hwords := Text.splitNonempty_cutsInto (fun c => !Text.isWordChar c) t
  rw [← Text.words_eq_splitNonempty] at hwords
  apply Spans.eq_of_covers_iff (Spans.normalize_isNormal _) hwords.normal
  intro i
  rw [Spans.covers_normalize, (humps_cutsLocally b t).covers_iff, hwords.covers_iff]
  simp only [IsWordAt, Bool.not_eq_false']

end Breaking

namespace Text

structure SegmentersAgree (t : Text) : Prop where
  wordHumps_normal : Spans.normalize (wordHumps t) = t.words.map (·.span)
  characterHumps_normal : Spans.normalize (characterHumps t) = t.words.map (·.span)
  words_read : ∀ p ∈ t.words, p.span.textOf t = p.text
  words_split : t.words = t.splitNonempty t.separators.contains
  wordHumps_rows : ∃ rows, rows.flatten = characterHumps t ∧ List.Forall₂ (Span.IsRowOf t) (wordHumps t) rows
  total_humps :
    (Segment.mk t).total.humps
      =
    (List.zipWith (fun p c => c.humps.map (·.shift p.start)) t.words (Segment.mk t).words).flatten

theorem segmentersAgree (t : Text) : t.SegmentersAgree where
  wordHumps_normal := Breaking.normalize_humps .words t
  characterHumps_normal := Breaking.normalize_humps .characters t
  words_read := by
    rw [words_eq_splitNonempty]
    exact (splitNonempty_cutsInto _ t).reads
  words_split := words_eq_splitNonempty_separators t
  wordHumps_rows := Breaking.wordHumps_rows t
  total_humps := by
    have htotal := Breaking.characterHumps_eq_flatMap_words t
    rw [List.flatMap_def] at htotal
    rw [Segment.words, List.zipWith_map_right, List.zipWith_self]
    exact htotal

end Text
end IdentSearch
