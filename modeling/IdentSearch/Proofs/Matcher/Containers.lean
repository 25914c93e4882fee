import IdentSearch.Proofs.Cascade.Offset
import IdentSearch.Proofs.Cascade.Truthful
import IdentSearch.Proofs.Text.Parts

/-!
Matchers with containers: a candidate matches exactly if every segment matches the container part under it
alone, counted from the right, and the match is made up of those matches, each moved to its part.
-/

namespace IdentSearch

/-! ### Where segments lie -/

namespace Segment

variable {fuzzy : Bool} {settings : Settings} {candidate : Text} {offset : Nat} {r : Match}

theorem attempt_liesIn {stripped : Bool} {c : Chunk} (hc : c.text ≠ [])
    (h : (if fuzzy then (attempt settings candidate offset stripped c).fuzzily
      else (attempt settings candidate offset stripped c).outcome) = some r)
    : r.LiesIn offset candidate.length := by
  split at h
  . unfold Attempt.fuzzily at h
    split at h
    . cases h
      constructor
      . exact Spans.isNormal_nil
      . intro i hi
        exact absurd hi (Spans.not_covers_nil i)
    . cases h
  . have hreports := Attempt.outcome_reports hc h
    constructor
    . exact hreports.isNormal
    . intro i hi
      exact hreports.covers hi

theorem answer_liesIn {s : Segment} (hs : s.text ≠ [])
    (h : s.answer fuzzy settings candidate offset = some r) : r.LiesIn offset candidate.length := by
  unfold answer outcome at h
  rcases Option.or_eq_some_iff.mp h with htotal | ⟨_, hwords⟩
  . exact attempt_liesIn hs htotal
  . apply of_mapM_bind_mergeAll (fun _ _ => Match.LiesIn.merge) _ hwords
    intro c hc m hm
    rcases List.mem_map.mp hc with ⟨p, hp, rfl⟩
    exact attempt_liesIn (Text.text_ne_nil_of_mem_words hp) hm

theorem answer_eq_none (hfuzzy : settings.allowFuzzy = false) (s : Segment)
    : s.answer true settings candidate offset = none := by
  have hnone : ∀ stripped c, (attempt settings candidate offset stripped c).fuzzily = none := by
    intro stripped c
    unfold Attempt.fuzzily attempt
    rw [hfuzzy]
    rfl
  unfold answer outcome
  simp only [if_true, hnone, Option.none_or]
  exact mapM_none_bind_mergeAll s.words

end Segment

namespace Matcher

def rightAligned (segments : List Segment) (parts : List Piece) : List (Segment × Piece) :=
  segments.zip (parts.drop (parts.length - segments.length))

def leftOver (segments : List Segment) (parts : List Piece) : List Piece :=
  parts.take (parts.length - segments.length)

structure MergesParts (separators : CharSet) (candidate : Text) (segments : List Segment)
    (parts : List Piece) (find : Segment → Text → Option Match) (result : Option Match) : Prop where
  isSome_iff : result.isSome = true
    ↔ ∀ l ∈ rightAligned segments parts, (find l.1 l.2.text).isSome = true
  combines : ∀ r, result = some r → ∃ ms,
    List.Forall₂ (fun l m => (find l.1 l.2.text).map (·.shift l.2.start) = some m)
      (rightAligned segments parts) ms ∧ r.Combines ms
  onParts : ∀ r, result = some r → ∀ i, r.spans.Covers i
    → ∃ l ∈ rightAligned segments parts, l.2.span.Covers i
  offLeftOver : ∀ r, result = some r → ∀ p ∈ leftOver segments parts, ∀ i, p.span.Covers i
    → ¬ r.spans.Covers i
  offSeparators : ∀ r, result = some r → ∀ i c, candidate[i]? = some c → separators.contains c = true
    → ¬ r.spans.Covers i

theorem layOut_eq_reverse {segments : List Segment} {parts : List Piece}
    (h : segments.length ≤ parts.length)
    : layOut segments parts = (rightAligned segments parts).reverse := by
  have hlength : segments.length = (parts.drop (parts.length - segments.length)).length := by
    rw [List.length_drop]
    omega
  unfold layOut rightAligned
  conv => lhs; rw [← List.take_append_drop (parts.length - segments.length) parts]
  rw [List.reverse_append, ← List.append_nil segments.reverse, List.zip_append]
  . rw [List.zip_nil_left, List.append_nil, List.zip_eq_zipWith, List.zip_eq_zipWith,
      List.reverse_zipWith hlength]
  . rw [List.length_reverse, List.length_reverse]
    exact hlength

/-! ### One pass -/

section
variable {separators : CharSet} {candidate : Text} {segments : List Segment} {parts : List Piece}
variable {fuzzy : Bool} {m : Matcher} {r : Match} {ms : List Match}

def findAlone (fuzzy : Bool) (m : Matcher) (s : Segment) (t : Text) : Option Match :=
  s.answer fuzzy m.settings t 0

theorem answerAt_eq (fuzzy : Bool) (m : Matcher) (l : Segment × Piece)
    : m.answerAt fuzzy l = (m.findAlone fuzzy l.1 l.2.text).map (·.shift l.2.start) :=
  l.1.answer_eq_shift fuzzy m.settings l.2.text l.2.start

theorem liesIn_of_found (htexts : ∀ s ∈ segments, s.text ≠ [])
    (hfound : List.Forall₂ (fun l m' => m.answerAt fuzzy l = some m') (rightAligned segments parts) ms)
    : ∀ m' ∈ ms, ∃ l ∈ rightAligned segments parts, m'.LiesIn l.2.start l.2.text.length := by
  intro m' hm'
  rcases exists_of_mem_right hfound hm' with ⟨l, hl, hanswer⟩
  refine ⟨l, hl, Segment.answer_liesIn ?_ hanswer⟩
  apply htexts
  exact (List.of_mem_zip hl).1

theorem not_covers_leftOver {isSeparator : Char → Bool} {l : Segment × Piece} {p : Piece} {i : Nat}
    (hcuts : Text.CutsInto isSeparator candidate parts) (hl : l ∈ rightAligned segments parts)
    (hp : p ∈ leftOver segments parts) (hi : p.span.Covers i) : ¬ l.2.span.Covers i := by
  intro hcov
  have hsplit : parts = leftOver segments parts ++ parts.drop (parts.length - segments.length) :=
    (List.take_append_drop _ parts).symm
  have hseparated := hcuts.normal.separated
  rw [hsplit, List.map_append, List.pairwise_append] at hseparated
  have hlt := hseparated.2.2 p.span (List.mem_map_of_mem hp) l.2.span
    (List.mem_map_of_mem (List.of_mem_zip hl).2)
  have := hi.2
  have := hcov.1
  omega

theorem not_separator_of_covers {isSeparator : Char → Bool} {l : Segment × Piece} {i : Nat} {c : Char}
    (hcuts : Text.CutsInto isSeparator candidate parts) (hl : l ∈ rightAligned segments parts)
    (hi : l.2.span.Covers i) (hc : candidate[i]? = some c) : isSeparator c = false := by
  have hmem : l.2 ∈ parts := List.mem_of_mem_drop (List.of_mem_zip hl).2
  rcases (hcuts.covers_iff i).mp ⟨_, List.mem_map_of_mem hmem, hi⟩ with ⟨d, hd, hnot⟩
  rw [hc] at hd
  cases hd
  exact hnot

theorem answer_eq_none (hstrategy : m.strategy = .containers segments separators)
    (hparts : candidate.splitNonempty separators.contains = parts)
    (hlt : parts.length < segments.length) : m.answer fuzzy candidate = none := by
  unfold answer
  rw [hstrategy]
  dsimp only
  rw [hparts, if_pos hlt]

theorem fuzzily_eq_answer (hstrategy : m.strategy = .containers segments separators)
    : m.fuzzily candidate = m.answer true candidate := by
  rw [fuzzily_eq]
  split
  . rfl
  . next hfuzzy =>
    have hnone : m.answerAt true = fun _ => none := by
      funext l
      exact Segment.answer_eq_none (Bool.eq_false_iff.mpr hfuzzy) l.1
    unfold answer
    rw [hstrategy, hnone]
    dsimp only
    split
    . rfl
    . exact (mapM_none_bind_mergeAll _).symm

variable (hstrategy : m.strategy = .containers segments separators)
variable (hparts : candidate.splitNonempty separators.contains = parts)
variable (hle : segments.length ≤ parts.length)
include hstrategy hparts hle

theorem answer_containers
    : m.answer fuzzy candidate
        =
      ((rightAligned segments parts).reverse.mapM (m.answerAt fuzzy)).bind Match.mergeAll := by
  unfold answer
  rw [hstrategy]
  dsimp only
  rw [hparts, if_neg (by omega), layOut_eq_reverse hle]

theorem exists_found (h : m.answer fuzzy candidate = some r)
    : ∃ ms, List.Forall₂ (fun l m' => m.answerAt fuzzy l = some m') (rightAligned segments parts) ms ∧
        Match.mergeAll ms.reverse = some r := by
  rw [answer_containers hstrategy hparts hle] at h
  rcases Option.bind_eq_some_iff.mp h with ⟨ms, hms, hmerge⟩
  have hfound := mapM_eq_some_iff.mp hms
  rw [← List.reverse_reverse ms, List.forall₂_reverse_iff] at hfound
  rw [← List.reverse_reverse ms] at hmerge
  exact ⟨ms.reverse, hfound, hmerge⟩

theorem isSome_answer (hsegments : segments ≠ [])
    : (m.answer fuzzy candidate).isSome = true
        ↔
      ∀ l ∈ rightAligned segments parts, (m.findAlone fuzzy l.1 l.2.text).isSome = true := by
  have hfind : ∀ l, (m.answerAt fuzzy l).isSome = (m.findAlone fuzzy l.1 l.2.text).isSome := by
    intro l
    rw [answerAt_eq, Option.isSome_map]
  have hne : (rightAligned segments parts).reverse ≠ [] := by
    apply List.ne_nil_of_length_pos
    have := List.length_pos_iff.mpr hsegments
    simp only [List.length_reverse, rightAligned, List.length_zip, List.length_drop]
    omega
  rw [answer_containers hstrategy hparts hle, isSome_mapM_bind_mergeAll]
  simp only [hfind, List.mem_reverse]
  exact and_iff_right hne

theorem answer_combines (htexts : ∀ s ∈ segments, s.text ≠ [])
    (h : m.answer fuzzy candidate = some r)
    : ∃ ms, List.Forall₂ (fun l m' => m.answerAt fuzzy l = some m') (rightAligned segments parts) ms ∧
        r.Combines ms := by
  rcases exists_found hstrategy hparts hle h with ⟨ms, hfound, hmerge⟩
  refine ⟨ms, hfound, ?_⟩
  apply Match.Combines.perm _ ms.reverse_perm
  apply Match.combines_of_mergeAll _ hmerge
  intro m' hm'
  rcases liesIn_of_found htexts hfound m' (List.mem_reverse.mp hm') with ⟨l, _, hl⟩
  exact hl.isNormal

theorem exists_part_of_covers (htexts : ∀ s ∈ segments, s.text ≠ [])
    (h : m.answer fuzzy candidate = some r) {i : Nat} (hi : r.spans.Covers i)
    : ∃ l ∈ rightAligned segments parts, l.2.span.Covers i := by
  rcases answer_combines hstrategy hparts hle htexts h with ⟨ms, hfound, hr⟩
  rcases hr.covers_iff.mp hi with ⟨m', hm', hcov⟩
  rcases liesIn_of_found htexts hfound m' hm' with ⟨l, hl, hlies⟩
  exact ⟨l, hl, hlies.covers i hcov⟩

theorem answer_mergesParts (hsegments : segments ≠ [])
    (htexts : ∀ s ∈ segments, s.text ≠ [])
    : MergesParts separators candidate segments parts (m.findAlone fuzzy) (m.answer fuzzy candidate) := by
  have hcuts := Text.splitNonempty_cutsInto separators.contains candidate
  rw [hparts] at hcuts
  constructor
  . exact isSome_answer hstrategy hparts hle hsegments
  . intro r hr
    simp only [← answerAt_eq]
    exact answer_combines hstrategy hparts hle htexts hr
  . intro r hr i hi
    exact exists_part_of_covers hstrategy hparts hle htexts hr hi
  . intro r hr p hp i hi hcov
    rcases exists_part_of_covers hstrategy hparts hle htexts hr hcov with ⟨l, hl, hlcov⟩
    exact not_covers_leftOver hcuts hl hp hi hlcov
  . intro r hr i c hc hsep hcov
    rcases exists_part_of_covers hstrategy hparts hle htexts hr hcov with ⟨l, hl, hlcov⟩
    rw [not_separator_of_covers hcuts hl hlcov hc] at hsep
    cases hsep

end

end Matcher
end IdentSearch
