import IdentSearch.Proofs.Session.Punctuation
import IdentSearch.Proofs.Session.Ranking

/-!
What was typed wins. A candidate has one of the two strongest kinds with its punctuation kept just when it
is the pattern or begins with it, case apart. So the pattern itself, if it is among the candidates, is ranked
before all others and alone at the top.
-/

namespace IdentSearch

-- What the answer to a candidate says about a pattern without the white space around it: whether the candidate is
-- the pattern or begins with it, and whether case agrees.
structure Answers (f : Folding) (pattern : Text) (candidate : Option Text) (answer : Option Match)
    : Prop where
  exact_iff : ∀ caseSensitive,
    (∃ spans, answer = some ⟨.exact, false, caseSensitive, spans⟩)
      ↔ ∃ t, candidate = some t ∧ t.isBlank = false ∧ f.fold t = f.fold pattern ∧
          (caseSensitive = true ↔ t = pattern)
  beginning_iff : ∀ caseSensitive,
    (∃ spans, answer = some ⟨.beginning, false, caseSensitive, spans⟩)
      ↔ ∃ t, candidate = some t ∧ t.isBlank = false ∧
          (f.fold pattern <+: f.fold t ∧ f.fold pattern ≠ f.fold t) ∧
          (caseSensitive = true ↔ pattern <+: t)

namespace Matcher

variable {pattern candidate : Text} {o : Options} {r : Match}

theorem isInvalid_simple (pattern : Text) (o : Options) : (simple pattern o).isInvalid = pattern.isBlank := by
  show (false || (pattern.trim.isBlank || false)) = pattern.isBlank
  rw [Text.isBlank_trim, Bool.or_false, Bool.false_or]

theorem isBlank_of_create {m : Matcher} (h : create (some pattern) (some o) = .ok m)
    : pattern.isBlank = false := by
  unfold create at h
  dsimp only at h
  split at h
  . cases h
  . next hblank => exact Bool.eq_false_iff.mpr hblank

def whole (pattern : Text) (o : Options) (candidate : Text) : Attempt :=
  Segment.attempt (settingsOf o) candidate 0 false ⟨pattern.trim⟩

theorem outcome_simple_iff (hblank : pattern.isBlank = false) (hkind : r.kind ≠ .fuzzy)
    (hkept : r.punctuationStripped = false)
    : (simple pattern o).outcome (some candidate) = some r
        ↔
      candidate.isBlank = false ∧ (whole pattern o candidate).outcome = some r := by
  constructor
  . intro h
    have hcandidate : candidate.isBlank = false := by
      unfold outcome at h
      dsimp only at h
      split at h
      . cases h
      . next hvalid =>
        rw [Bool.or_eq_true, not_or] at hvalid
        exact Bool.eq_false_iff.mpr hvalid.2
    exact ⟨hcandidate, Segment.outcome_of_kept (answer_of_outcome h hkind).2 hkept⟩
  . rintro ⟨hcandidate, h⟩
    have hanswer : (simple pattern o).answer false candidate = some r := Option.or_eq_some_iff.mpr (.inl h)
    rw [outcome, isInvalid_simple, hblank, hcandidate, hanswer]
    rfl

theorem exists_outcome_iff {kind : Kind} {caseSensitive : Bool} {condition : Text → Prop}
    (hblank : pattern.isBlank = false) (hkind : kind ≠ .fuzzy)
    (hwhole : ∀ t, (∃ spans, (whole pattern o t).outcome = some ⟨kind, false, caseSensitive, spans⟩)
      ↔ condition t)
    (candidate : Option Text)
    : (∃ spans, (simple pattern o).outcome candidate = some ⟨kind, false, caseSensitive, spans⟩)
        ↔
      ∃ t, candidate = some t ∧ t.isBlank = false ∧ condition t := by
  constructor
  . rintro ⟨spans, h⟩
    cases candidate with
    | none => cases h
    | some t =>
      rcases (outcome_simple_iff hblank hkind rfl).mp h with ⟨ht, houtcome⟩
      exact ⟨t, rfl, ht, (hwhole t).mp ⟨spans, houtcome⟩⟩
  . rintro ⟨t, rfl, ht, hcondition⟩
    rcases (hwhole t).mpr hcondition with ⟨spans, houtcome⟩
    exact ⟨spans, (outcome_simple_iff hblank hkind rfl).mpr ⟨ht, houtcome⟩⟩

theorem outcome_answers (o : Options) (hblank : pattern.isBlank = false) (candidate : Option Text)
    : Answers (Folding.ofLocale o.locale) pattern.trim candidate
        ((simple pattern o).outcome candidate) := by
  constructor
  . intro caseSensitive
    apply exists_outcome_iff hblank Kind.noConfusion
    intro t
    exact Attempt.outcome_exact_iff (a := whole pattern o t)
  . intro caseSensitive
    apply exists_outcome_iff hblank Kind.noConfusion
    intro t
    exact Attempt.outcome_beginning_iff (a := whole pattern o t)

/-! ### The pattern among the candidates -/

theorem exists_isPerfect (hblank : pattern.isBlank = false)
    : ∃ r, (simple pattern o).ranked (some pattern.trim) = some ⟨pattern.trim, r⟩ ∧ r.IsPerfect := by
  have htyped := (outcome_answers o hblank (some pattern.trim)).exact_iff true
  rw [← Text.isBlank_trim] at hblank
  rcases htyped.mpr ⟨pattern.trim, rfl, hblank, rfl, Iff.intro (fun _ => rfl) (fun _ => rfl)⟩
    with ⟨spans, houtcome⟩
  refine ⟨_, ranked_eq_some_iff.mpr ⟨rfl, houtcome⟩, ?_⟩
  exact ⟨rfl, rfl, rfl⟩

theorem candidate_eq_of_isPerfect {candidates : List (Option Text)} {r : Ranked}
    (hblank : pattern.isBlank = false) (hr : r ∈ candidates.filterMap (simple pattern o).ranked)
    (hperfect : r.result.IsPerfect) : r.candidate = pattern.trim := by
  have houtcome := outcome_of_mem_ranked hr
  have htyped := (outcome_answers o hblank (some r.candidate)).exact_iff true
  rcases r with ⟨t, kind, stripped, caseSensitive, spans⟩
  rcases hperfect with ⟨hkind, hcase, hkept⟩
  cases hkind
  cases hcase
  cases hkept
  rcases htyped.mp ⟨spans, houtcome⟩ with ⟨u, hu, _, _, heq⟩
  cases hu
  exact heq.mp rfl

end Matcher

namespace Session

theorem tryMatch_typed (pattern : Text) (o : Options) (m : Matcher) (steps : List Step)
    (hcreate : Matcher.create (some pattern) (some o) = .ok m) (hsimple : o.separators = none)
    (hopen : (History.after step steps (start m)).disposed = false)
    : let s := History.after step steps (start m)
      (∀ candidate, ∃ answer, (s.tryMatch candidate).1 = .ok answer ∧
          Answers (Folding.ofLocale o.locale) pattern.trim candidate answer) ∧
        ∀ candidates limit, some pattern.trim ∈ candidates → (∀ n, limit = some n → 1 ≤ n) →
          ∃ first rest,
            (s.rank false candidates limit neverCancelled).1 = .ok (first :: rest) ∧
              first.candidate = pattern.trim ∧
                ∀ r ∈ rest, r.candidate ≠ pattern.trim →
                  r.result.sortKey false ≠ first.result.sortKey false := by
  intro s
  have hblank := Matcher.isBlank_of_create hcreate
  cases Matcher.eq_simple_of_create hsimple hcreate
  have hof := after_isOf (Matcher.simple pattern o) steps
  constructor
  . intro candidate
    refine ⟨_, hof.tryMatch_eq hopen candidate, ?_⟩
    exact Matcher.outcome_answers o hblank candidate
  . intro candidates limit hmem hlimit
    rcases Matcher.exists_isPerfect (o := o) hblank with ⟨best, hbest, hperfect⟩
    have hbestMem : ⟨pattern.trim, best⟩ ∈ candidates.filterMap (Matcher.simple pattern o).ranked :=
      List.mem_filterMap.mpr ⟨some pattern.trim, hmem, hbest⟩
    rcases Ranked.exists_isPerfect_head hbestMem hperfect with ⟨first, tail, hsort, hfirst⟩
    have hfound : ∀ r ∈ first :: tail, r ∈ candidates.filterMap (Matcher.simple pattern o).ranked := by
      intro r hr
      rw [← hsort] at hr
      exact (Ranked.sort_perm false _).subset hr
    rcases Ranked.takeLimit_cons hlimit first tail with ⟨rest, hrest, hsublist⟩
    refine ⟨first, rest, ?_, ?_, ?_⟩
    . rw [hof.rank_eq hopen, lookedAt_neverCancelled, hsort, hrest]
    . exact Matcher.candidate_eq_of_isPerfect hblank (hfound first List.mem_cons_self) hfirst
    . intro r hr hother heq
      apply hother
      have hrFound := hfound r (List.mem_cons_of_mem first (hsublist.subset hr))
      exact Matcher.candidate_eq_of_isPerfect hblank hrFound (hfirst.of_sortKey_eq heq)

-- `Co` is ranked before `co`, from which it differs in case only.
theorem tryMatch_typed_co
    : let o : Options := { allowSubstring := true }
      let m := Matcher.simple [' ', 'C', 'o'] o
      let steps := [Step.rank [some ['C', 'o', 'F', 'i']] none, .wordHumps ['C', 'o']]
      let s := History.after step steps (start m)
      Matcher.create (some [' ', 'C', 'o']) (some o) = .ok m ∧ s.disposed = false ∧
        Answers .plain ['C', 'o'] (some ['c', 'o']) (some ⟨.exact, false, false, []⟩) ∧
          ∃ first rest,
            (s.rank false [some ['c', 'o'], none, some ['C', 'o']] (some 2) neverCancelled).1
                = .ok (first :: rest) ∧
              first.candidate = ['C', 'o'] := by
  intro o m steps s
  have hcreate : Matcher.create (some [' ', 'C', 'o']) (some o) = .ok m := rfl
  have hopen : s.disposed = false := rfl
  rcases tryMatch_typed _ o m steps hcreate rfl hopen with ⟨hanswers, hrank⟩
  refine ⟨hcreate, hopen, ?_, ?_⟩
  . rcases hanswers (some ['c', 'o']) with ⟨answer, hanswer, htyped⟩
    cases hanswer
    exact htyped
  . have hmem : some ['C', 'o'] ∈ [some ['c', 'o'], none, some ['C', 'o']] := by decide
    have hlimit : ∀ n : Int, some 2 = some n → 1 ≤ n := by
      intro n hn
      cases hn
      decide
    rcases hrank _ (some 2) hmem hlimit with ⟨first, rest, hranking, hfirst, _⟩
    exact ⟨first, rest, hranking, hfirst⟩

end Session
end IdentSearch
