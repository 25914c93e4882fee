import IdentSearch.Proofs.Similarity.Table
import IdentSearch.Proofs.Text.Folding

/-!
Similarity is decided by the distance of the folded texts alone. The exits that look at lengths only are
taken where the distance is above the threshold anyway.
-/

namespace IdentSearch.Similarity

variable {s : Similarity} {candidate : Text}

def foldedDistance (s : Similarity) (candidate : Text) : Nat :=
  let t := s.folding.fold s.pattern
  let u := s.folding.fold candidate
  prefixDistance t u t.length u.length

structure DecidedByDistance (s : Similarity) (candidate : Text) : Prop where
  foldedDistance_isLeast :
    let t := s.folding.fold s.pattern
    let u := s.folding.fold candidate
    IsLeast {n | Edits t u t.length u.length n} (s.foldedDistance candidate)
  threshold_eq : s.threshold = if s.pattern.length ≤ 4 then 1 else 2
  accepts_iff : s.accepts candidate = true ↔ 3 ≤ s.pattern.length ∧ s.foldedDistance candidate ≤ s.threshold
  lengths_differ : s.lengthsDiffer candidate = true → s.threshold < s.foldedDistance candidate
  candidate_empty : 3 ≤ s.pattern.length → candidate = [] → s.threshold < s.foldedDistance candidate
  distance_eq :
    s.distance candidate
      =
    if s.foldedDistance candidate ≤ s.threshold then s.foldedDistance candidate else s.threshold + 1

theorem foldedDistance_length_le (s : Similarity) (candidate : Text)
    : s.pattern.length ≤ candidate.length + s.foldedDistance candidate
        ∧
      candidate.length ≤ s.pattern.length + s.foldedDistance candidate := by
  have hle := prefixDistance_length_le (s.folding.fold s.pattern) (s.folding.fold candidate)
    (s.folding.fold s.pattern).length (s.folding.fold candidate).length
  have hpattern : (s.folding.fold s.pattern).length = s.pattern.length := s.folding.length_view true _
  have hcandidate : (s.folding.fold candidate).length = candidate.length := s.folding.length_view true _
  unfold foldedDistance
  dsimp only
  omega

theorem lt_foldedDistance_of_lengthsDiffer (h : s.lengthsDiffer candidate = true)
    : s.threshold < s.foldedDistance candidate := by
  have hle := s.foldedDistance_length_le candidate
  rw [lengthsDiffer, Bool.or_eq_true, decide_eq_true_eq, decide_eq_true_eq] at h
  omega

theorem threshold_lt (h : minLength ≤ s.pattern.length) : s.threshold < s.pattern.length := by
  unfold minLength at h
  unfold threshold
  split
  . omega
  . omega

theorem lt_foldedDistance_of_isEmpty (h : minLength ≤ s.pattern.length) (hempty : candidate = [])
    : s.threshold < s.foldedDistance candidate := by
  have hle := s.foldedDistance_length_le candidate
  have hlt := threshold_lt h
  rw [hempty, List.length_nil] at hle
  rw [hempty]
  omega

theorem distance_eq_min (s : Similarity) (candidate : Text)
    : s.distance candidate = min (s.foldedDistance candidate) (s.threshold + 1) := by
  rw [distance, alignmentDistance_eq]
  rfl

theorem accepts_iff_foldedDistance (s : Similarity) (candidate : Text)
    : s.accepts candidate = true
        ↔
      minLength ≤ s.pattern.length ∧ s.foldedDistance candidate ≤ s.threshold := by
  unfold accepts
  split
  . next hexit =>
    simp only [Bool.or_eq_true, decide_eq_true_eq, List.isEmpty_iff] at hexit
    constructor
    . intro h
      cases h
    . rintro ⟨hlength, hle⟩
      rcases hexit with (hshort | hempty) | hdiffer
      . omega
      . have := lt_foldedDistance_of_isEmpty hlength hempty
        omega
      . have := lt_foldedDistance_of_lengthsDiffer hdiffer
        omega
  . next hexit =>
    simp only [Bool.or_eq_true, decide_eq_true_eq, not_or] at hexit
    rw [decide_eq_true_eq, distance_eq_min]
    omega

theorem decidedByDistance (s : Similarity) (candidate : Text) : s.DecidedByDistance candidate where
  foldedDistance_isLeast := prefixDistance_isLeast _ _ _ _
  threshold_eq := rfl
  accepts_iff := s.accepts_iff_foldedDistance candidate
  lengths_differ := lt_foldedDistance_of_lengthsDiffer
  candidate_empty := lt_foldedDistance_of_isEmpty
  distance_eq := by
    rw [distance_eq_min]
    split
    . omega
    . omega

end IdentSearch.Similarity
