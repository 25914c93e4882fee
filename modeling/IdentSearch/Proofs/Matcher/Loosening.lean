import IdentSearch.Proofs.Session.Punctuation

/-!
Finding the pattern anywhere in a candidate. The rule for it comes early and hides weaker ones, so that a match
may turn into another one, but a candidate that matches without it matches with it.
-/

namespace IdentSearch

namespace Attempt

theorem isSome_outcome_of_strict {settings : Settings} {candidate : Text} {offset : Nat} {stripped : Bool}
    {c : Chunk}
    : let strict := Segment.attempt { settings with allowSubstring := false } candidate offset stripped c
      let loose := Segment.attempt { settings with allowSubstring := true } candidate offset stripped c
      strict.outcome.isSome = true → loose.outcome.isSome = true := by
  intro strict loose h
  -- The two attempts have all other rules in common.
  have hstrict : strict.outcome = strict.atBeginning.or (strict.innerMatch.or
      ((strict.onHumps (wordHumps candidate)).or strict.onCapital)) := rfl
  have hloose : loose.outcome = strict.atBeginning.or (loose.anywhere.or (strict.innerMatch.or
      ((strict.onHumps (wordHumps candidate)).or strict.onCapital))) := rfl
  rw [hstrict, Option.isSome_or, Bool.or_eq_true] at h
  rw [hloose, Option.isSome_or, Option.isSome_or, Bool.or_eq_true, Bool.or_eq_true]
  rcases h with hbeginning | hweaker
  . exact .inl hbeginning
  . exact .inr (.inr hweaker)

theorem outcome_of_strict {settings : Settings} {candidate : Text} {offset : Nat} {stripped : Bool} {c : Chunk}
    {r : Match} (hkind : Kind.beginning.rank ≤ r.kind.rank)
    (h : (Segment.attempt { settings with allowSubstring := false } candidate offset stripped c).outcome
      = some r)
    : (Segment.attempt { settings with allowSubstring := true } candidate offset stripped c).outcome
        =
      some r := by
  rcases outcome_cases h with hrule | hmakes
  . exact Option.or_eq_some_iff.mpr (.inl hrule)
  . exact absurd hkind (Nat.not_le_of_lt (Kind.rank_lt_beginning hmakes.kind))

end Attempt

namespace Segment

theorem isSome_outcome {find find' : Bool → Chunk → Option Match}
    (hfind : ∀ stripped c, (find stripped c).isSome = true → (find' stripped c).isSome = true) (s : Segment)
    (h : (s.outcome find).isSome = true) : (s.outcome find').isSome = true := by
  unfold outcome at h ⊢
  rw [Option.isSome_or, Bool.or_eq_true, isSome_mapM_bind_mergeAll] at h ⊢
  rcases h with htotal | ⟨hne, hwords⟩
  . exact .inl (hfind false _ htotal)
  . exact .inr ⟨hne, fun c hc => hfind true c (hwords c hc)⟩

theorem isSome_answer_of_strict {fuzzy : Bool} {settings : Settings} {s : Segment} {candidate : Text}
    {offset : Nat} (h : (s.answer fuzzy { settings with allowSubstring := false } candidate offset).isSome = true)
    : (s.answer fuzzy { settings with allowSubstring := true } candidate offset).isSome = true := by
  apply isSome_outcome _ s h
  intro stripped c
  cases fuzzy with
  | false => exact Attempt.isSome_outcome_of_strict
  | true =>
    intro h
    exact h

end Segment

namespace Matcher

def searching (anywhere : Bool) (m : Matcher) : Matcher :=
  { m with settings := { m.settings with allowSubstring := anywhere } }

structure Loosens (m : Matcher) (strict loose : Option Match) : Prop where
  accepts : strict.isSome = true → loose.isSome = true
  typed : ∀ segment, m.strategy = .simple segment → ∀ r, strict = some r
    → r.kind = .exact ∨ r.kind = .beginning → r.punctuationStripped = false → loose = some r

variable {m : Matcher} {candidate : Text}

theorem answer_searching_simple {segment : Segment} (hstrategy : m.strategy = .simple segment)
    (fuzzy anywhere : Bool)
    : (m.searching anywhere).answer fuzzy candidate
        =
      segment.answer fuzzy { m.settings with allowSubstring := anywhere } candidate 0 := by
  have hsame : (m.searching anywhere).strategy = .simple segment := hstrategy
  unfold answer
  rw [hsame]
  rfl

theorem answer_searching_containers {segments : List Segment} {separators : CharSet}
    (hstrategy : m.strategy = .containers segments separators) (fuzzy anywhere : Bool)
    : (m.searching anywhere).answer fuzzy candidate
        =
      if (candidate.splitNonempty separators.contains).length < segments.length then none
      else
        ((layOut segments (candidate.splitNonempty separators.contains)).mapM
          ((m.searching anywhere).answerAt fuzzy)).bind Match.mergeAll := by
  have hsame : (m.searching anywhere).strategy = .containers segments separators := hstrategy
  unfold answer
  rw [hsame]

theorem isSome_answer_of_strict {fuzzy : Bool} (h : ((m.searching false).answer fuzzy candidate).isSome = true)
    : ((m.searching true).answer fuzzy candidate).isSome = true := by
  cases hstrategy : m.strategy with
  | simple segment =>
    rw [answer_searching_simple hstrategy] at h ⊢
    exact Segment.isSome_answer_of_strict h
  | containers segments separators =>
    rw [answer_searching_containers hstrategy] at h ⊢
    split at h
    . cases h
    . next hlt =>
      rw [if_neg hlt]
      rw [isSome_mapM_bind_mergeAll] at h ⊢
      refine ⟨h.1, ?_⟩
      intro l hl
      exact Segment.isSome_answer_of_strict (h.2 l hl)

theorem answer_of_strict {segment : Segment} {r : Match} (hstrategy : m.strategy = .simple segment)
    (hkind : Kind.beginning.rank ≤ r.kind.rank) (hkept : r.punctuationStripped = false)
    (h : (m.searching false).answer false candidate = some r)
    : (m.searching true).answer false candidate = some r := by
  rw [answer_searching_simple hstrategy] at h ⊢
  have htotal := Segment.outcome_of_kept h hkept
  exact Option.or_eq_some_iff.mpr (.inl (Attempt.outcome_of_strict hkind htotal))

theorem outcome_searching (m : Matcher) (candidate : Option Text)
    : m.Loosens ((m.searching false).outcome candidate) ((m.searching true).outcome candidate) := by
  cases candidate with
  | none =>
    constructor
    . intro h
      exact h
    . intro _ _ r h
      cases h
  | some t =>
    -- Blank candidates and invalid patterns are told apart before the rules are tried.
    have houtcome : ∀ anywhere, (m.searching anywhere).outcome (some t)
        = if m.isInvalid || t.isBlank then none
          else ((m.searching anywhere).answer false t).or
            (if m.settings.allowFuzzy then (m.searching anywhere).answer true t else none) := fun _ => rfl
    constructor
    . intro h
      rw [houtcome] at h ⊢
      split at h
      . cases h
      . next hvalid =>
        rw [if_neg hvalid]
        rw [Option.isSome_or, Bool.or_eq_true] at h ⊢
        rcases h with hrule | hfuzzy
        . exact .inl (isSome_answer_of_strict hrule)
        . right
          split at hfuzzy
          . next hallowed =>
            rw [if_pos hallowed]
            exact isSome_answer_of_strict hfuzzy
          . cases hfuzzy
    . intro segment hstrategy r h hkind hkept
      have hrank : Kind.beginning.rank ≤ r.kind.rank := by
        rcases hkind with hexact | hbeginning
        . rw [hexact]
          decide
        . rw [hbeginning]
      have hfound : r.kind ≠ .fuzzy := by
        intro hfuzzy
        rw [hfuzzy] at hrank
        exact absurd hrank (by decide)
      have hanswer := answer_of_strict hstrategy hrank hkept (answer_of_outcome h hfound).2
      rw [houtcome] at h ⊢
      split at h
      . cases h
      . next hvalid => rw [if_neg hvalid, hanswer, Option.some_or]

end Matcher
end IdentSearch
