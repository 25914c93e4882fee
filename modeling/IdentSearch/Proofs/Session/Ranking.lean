import IdentSearch.Proofs.Ranking.Order
import IdentSearch.Proofs.Session.Filtering

/-!
What a ranking yields: every candidate that matches as often as it was given, with the match that a new
matcher finds for it, and all of them in an order that does not depend on the order of the candidates.
-/

namespace IdentSearch

theorem Matcher.eq_of_mem_ranked {m : Matcher} {candidates : List (Option Text)} {r s : Ranked}
    (hr : r ∈ candidates.filterMap m.ranked) (hs : s ∈ candidates.filterMap m.ranked)
    (h : r.candidate = s.candidate) : r = s := by
  have hr := outcome_of_mem_ranked hr
  have hs := outcome_of_mem_ranked hs
  rw [h, hs] at hr
  cases r
  cases s
  cases hr
  cases h
  rfl

namespace Session

variable {m : Matcher} {s : Session}

def ranked (s : Session) (candidate : Option Text) : Option Ranked :=
  match candidate, (s.tryMatch candidate).1 with
  | some t, .ok (some r) => some ⟨t, r⟩
  | _, _ => none

theorem IsOf.ranked_eq (h : s.IsOf m) (hopen : s.disposed = false) : s.ranked = m.ranked := by
  funext candidate
  unfold Session.ranked Matcher.ranked
  rw [h.tryMatch_eq hopen]
  cases candidate with
  | none => rfl
  | some t =>
    cases m.outcome (some t) with
    | none => rfl
    | some r => rfl

theorem rank_sorts (m : Matcher) (steps : List Step) (ignoreCase : Bool) (candidates : List (Option Text))
    (hopen : (History.after step steps (start m)).disposed = false)
    : let s := History.after step steps (start m)
      s.ranked = (start m).ranked ∧
        ∃ items, items.Perm (candidates.filterMap s.ranked) ∧
          ∀ limit, (Ranked.takeLimit limit items).Pairwise (Ranked.Precedes ignoreCase) ∧
            ∀ permuted, permuted.Perm candidates →
              (s.rank ignoreCase permuted limit neverCancelled).1
                = .ok (Ranked.takeLimit limit items) := by
  intro s
  have hof := after_isOf m steps
  have hranked : s.ranked = m.ranked := hof.ranked_eq hopen
  rw [(start_isOf m).ranked_eq rfl, hranked]
  refine ⟨rfl, Ranked.sort ignoreCase (candidates.filterMap m.ranked), ?_, ?_⟩
  . exact Ranked.sort_perm ignoreCase _
  intro limit
  constructor
  . apply List.Pairwise.sublist (Ranked.takeLimit_sublist limit _)
    apply (Ranked.sort_pairwise ignoreCase _).imp
    intro r t h
    exact Ranked.precedes_of_compare h
  . intro permuted hpermuted
    have hsort : Ranked.sort ignoreCase (permuted.filterMap m.ranked)
        = Ranked.sort ignoreCase (candidates.filterMap m.ranked) := by
      apply Ranked.sort_eq_of_perm (hpermuted.filterMap m.ranked)
      intro r hr t ht h
      exact Matcher.eq_of_mem_ranked hr ht h
    rw [hof.rank_eq hopen, lookedAt_neverCancelled, hsort]

-- What was ranked before, in whichever order, leaves the ranking as it is.
theorem rank_sorts_co
    : let m := Matcher.simple ['c', 'o'] {}
      let steps := [Step.rank [some ['F', 'o'], some ['C', 'o', 'd', 'e']] none]
      let candidates := [some ['C', 'o', 'd', 'e'], none, some ['c', 'o'], some ['C', 'o', 'd', 'e'], some [' ']]
      let s := History.after step steps (start m)
      s.disposed = false ∧
        ∃ items, items.Perm (candidates.filterMap s.ranked) ∧
          (s.rank true candidates.reverse none neverCancelled).1 = .ok items := by
  intro m steps candidates s
  have hopen : s.disposed = false := rfl
  rcases rank_sorts m steps true candidates hopen with ⟨_, items, hperm, hitems⟩
  refine ⟨hopen, items, hperm, ?_⟩
  apply (hitems none).2
  exact List.reverse_perm candidates

end Session
end IdentSearch
