import IdentSearch.Proofs.Session.Coherence

/-!
What a ranking finds before it sorts: of the candidates that it looks at, those with a match, each with the
match that it has by itself.
-/

namespace IdentSearch

def Matcher.ranked (m : Matcher) (candidate : Option Text) : Option Ranked :=
  candidate.bind fun t => (m.outcome candidate).map fun r => ⟨t, r⟩

theorem Matcher.ranked_eq_some_iff {m : Matcher} {candidate : Option Text} {r : Ranked}
    : m.ranked candidate = some r
        ↔
      candidate = some r.candidate ∧ m.outcome (some r.candidate) = some r.result := by
  unfold ranked
  constructor
  . intro h
    rcases Option.bind_eq_some_iff.mp h with ⟨t, ht, hmap⟩
    rcases Option.map_eq_some_iff.mp hmap with ⟨result, hresult, rfl⟩
    rw [ht] at hresult
    exact ⟨ht, hresult⟩
  . rintro ⟨rfl, hresult⟩
    rw [Option.bind_some, hresult]
    rfl

theorem Matcher.ranked_blank {t : Text} (h : t.isBlank = true) (m : Matcher) : m.ranked (some t) = none := by
  rw [ranked, Option.bind_some, outcome, h, Bool.or_true]
  rfl

theorem Matcher.outcome_of_mem_ranked {m : Matcher} {candidates : List (Option Text)} {r : Ranked}
    (h : r ∈ candidates.filterMap m.ranked) : m.outcome (some r.candidate) = some r.result := by
  rcases List.mem_filterMap.mp h with ⟨candidate, _, hcandidate⟩
  exact (ranked_eq_some_iff.mp hcandidate).2

namespace Session

variable {m : Matcher} {s : Session}

@[simp]
theorem tryMatch_disposed (candidate : Option Text) (s : Session)
    : (s.tryMatch candidate).2.disposed = s.disposed := by
  cases hdisposed : s.disposed with
  | true =>
    rw [tryMatch_of_disposed hdisposed]
    exact hdisposed
  | false =>
    rw [tryMatch_of_open hdisposed]
    exact hdisposed

/-- The candidates that a ranking looks at before it is cancelled. -/
def lookedAt (cancelled : Cancellation) : (seen : Nat) → List (Option Text) → List (Option Text)
  | _, [] => []
  | seen, c :: cs => if cancelled seen then [] else c :: lookedAt cancelled (seen + 1) cs

@[simp]
theorem lookedAt_neverCancelled (candidates : List (Option Text)) (seen : Nat)
    : lookedAt neverCancelled seen candidates = candidates := by
  induction candidates generalizing seen with
  | nil => rfl
  | cons c cs ih =>
    show c :: lookedAt neverCancelled (seen + 1) cs = c :: cs
    rw [ih]

theorem filterMatches_eq_lookedAt (cancelled : Cancellation) (candidates : List (Option Text))
    (seen seen' : Nat) (s : Session)
    : s.filterMatches cancelled seen candidates
        =
      s.filterMatches neverCancelled seen' (lookedAt cancelled seen candidates) := by
  induction candidates generalizing seen seen' s with
  | nil => rfl
  | cons c cs ih =>
    unfold lookedAt
    rw [filterMatches]
    split
    . rfl
    . rw [filterMatches, neverCancelled, if_neg Bool.false_ne_true]
      rcases s.tryMatch c with ⟨answer, s'⟩
      cases answer with
      | error e => rfl
      | ok r =>
        dsimp only
        rw [ih (seen + 1) (seen' + 1)]

theorem filterMatches_lookedAt (cancelled : Cancellation) (candidates : List (Option Text))
    (seen seen' : Nat) (s : Session)
    : (s.filterMatches cancelled seen candidates).2
        =
      (s.filterMatches neverCancelled seen' (lookedAt cancelled seen candidates)).2 := by
  rw [filterMatches_eq_lookedAt cancelled candidates seen seen']

theorem IsOf.filterMatches_eq (h : s.IsOf m) (hopen : s.disposed = false) (cancelled : Cancellation)
    (candidates : List (Option Text)) (seen : Nat)
    : (s.filterMatches cancelled seen candidates).1
        =
      .ok ((lookedAt cancelled seen candidates).filterMap m.ranked) := by
  induction candidates generalizing seen s with
  | nil => rfl
  | cons c cs ih =>
    unfold Session.filterMatches lookedAt
    split
    . rfl
    . have hanswer := h.tryMatch_eq hopen c
      have hrest := ih (h.tryMatch c) (by rw [tryMatch_disposed, hopen]) (seen + 1)
      rcases htry : s.tryMatch c with ⟨answer, s'⟩
      rw [htry] at hanswer hrest
      rcases hfilter : Session.filterMatches cancelled (seen + 1) cs s' with ⟨rest, s''⟩
      rw [hfilter] at hrest
      dsimp only at hanswer hrest
      subst hanswer hrest
      dsimp only
      rw [hfilter]
      dsimp only
      rw [List.filterMap_cons, Matcher.ranked]
      cases c with
      | none => rfl
      | some t =>
        cases m.outcome (some t) with
        | none => rfl
        | some r => rfl

theorem IsOf.rank_eq (h : s.IsOf m) (hopen : s.disposed = false) (ignoreCase : Bool)
    (candidates : List (Option Text)) (limit : Option Int) (cancelled : Cancellation)
    : (s.rank ignoreCase candidates limit cancelled).1
        =
      .ok (Ranked.takeLimit limit
        (Ranked.sort ignoreCase ((lookedAt cancelled 0 candidates).filterMap m.ranked))) := by
  show (s.filterMatches cancelled 0 candidates).1.map _ = _
  rw [h.filterMatches_eq hopen]
  rfl

end Session
end IdentSearch
