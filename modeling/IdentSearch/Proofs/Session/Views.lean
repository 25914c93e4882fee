import IdentSearch.Proofs.Ranking.Grouping
import IdentSearch.Proofs.Session.Filtering

/-!
Parts of a ranking. What a limit or a cancellation leaves of it, its best item and its groups are all read off
the one full ranking, and a cancelled ranking leaves the matcher as the ranking of fewer candidates does.
-/

namespace IdentSearch

namespace Ranked

variable {α : Type} {items : List α}

theorem takeLimit_natCast (k : Nat) : takeLimit (some (k : Int)) items = items.take k := by
  simp [takeLimit]

theorem head?_takeLimit_one : (takeLimit (some 1) items).head? = items.head? := by
  simp [takeLimit, List.head?_take]

end Ranked

namespace Session

variable {m : Matcher} {s : Session} {cancelled : Cancellation}

theorem lookedAt_eq_take {n seen : Nat} (hbefore : ∀ i < n, cancelled (seen + i) = false)
    (hthen : cancelled (seen + n) = true) (candidates : List (Option Text))
    : lookedAt cancelled seen candidates = candidates.take n := by
  induction candidates generalizing n seen with
  | nil => simp [lookedAt]
  | cons c cs ih =>
    unfold lookedAt
    cases n with
    | zero =>
      rw [Nat.add_zero] at hthen
      simp [hthen]
    | succ n =>
      have hnow : cancelled seen = false := hbefore 0 (Nat.zero_lt_succ n)
      rw [hnow, if_neg Bool.false_ne_true, List.take_succ_cons, ih]
      . intro i hi
        rw [Nat.add_right_comm]
        apply hbefore (i + 1)
        omega
      . rw [Nat.add_right_comm]
        exact hthen

theorem rank_of_cancelled {n : Nat} (hbefore : ∀ i < n, cancelled i = false) (hthen : cancelled n = true)
    (ignoreCase : Bool) (candidates : List (Option Text)) (limit : Option Int) (s : Session)
    : s.rank ignoreCase candidates limit cancelled
        =
      s.rank ignoreCase (candidates.take n) limit neverCancelled := by
  have htake : lookedAt cancelled 0 candidates = candidates.take n := by
    apply lookedAt_eq_take
    all_goals simpa
  unfold Session.rank
  rw [filterMatches_eq_lookedAt cancelled candidates 0 0, htake]

theorem IsOf.selectBest_eq (h : s.IsOf m) (hopen : s.disposed = false) (ignoreCase : Bool)
    (candidates : List (Option Text))
    : (s.selectBest ignoreCase candidates).1
        =
      .ok (Ranked.sort ignoreCase (candidates.filterMap m.ranked)).head? := by
  show (s.rank ignoreCase candidates (some 1) neverCancelled).1.map _ = _
  rw [h.rank_eq hopen, lookedAt_neverCancelled, Except.map, Ranked.head?_takeLimit_one]

theorem rank_views (m : Matcher) (steps others : List Step) (ignoreCase : Bool)
    (candidates : List (Option Text))
    (hsteps : (History.after step steps (start m)).disposed = false)
    (hothers : (History.after step others (start m)).disposed = false)
    : let s := History.after step steps (start m)
      let t := History.after step others (start m)
      ∃ items, (s.rank ignoreCase candidates none neverCancelled).1 = .ok items ∧
        (∀ k : Nat, (t.rank ignoreCase candidates (some k) neverCancelled).1 = .ok (items.take k)) ∧
        (∀ (n : Nat) (limit : Option Int) (cancelled : Cancellation),
          (∀ i < n, cancelled i = false) → cancelled n = true →
            t.rank ignoreCase candidates limit cancelled
              = t.rank ignoreCase (candidates.take n) limit neverCancelled) ∧
        (t.selectBest ignoreCase candidates).1 = .ok items.head? ∧
        Ranked.AreGroups (Ranked.groupByKind items) ∧
        Ranked.concat (Ranked.groupByKind items) = items := by
  intro s t
  have hs : s.IsOf m := after_isOf m steps
  have ht : t.IsOf m := after_isOf m others
  refine ⟨Ranked.sort ignoreCase (candidates.filterMap m.ranked), ?_, ?_, ?_, ?_, ?_⟩
  . rw [hs.rank_eq hsteps, lookedAt_neverCancelled]
    rfl
  . intro k
    rw [ht.rank_eq hothers, lookedAt_neverCancelled, Ranked.takeLimit_natCast]
  . intro n limit cancelled hbefore hthen
    apply rank_of_cancelled hbefore hthen
  . apply ht.selectBest_eq hothers
  . apply Ranked.groupByKind_of_sorted
    apply Ranked.sort_pairwise

-- A matcher that ranked before and a new one, and a ranking that is cancelled before its third candidate.
theorem rank_views_co
    : let m := Matcher.simple ['c', 'o'] {}
      let candidates := [some ['C', 'o', 'd', 'e'], none, some ['F', 'o', 'o', 'C', 'o'], some ['c', 'o']]
      let s := History.after step [.rank candidates (some 1)] (start m)
      s.disposed = false ∧ (start m).disposed = false ∧
        (∀ i < 2, cancelledAfter 2 i = false) ∧ cancelledAfter 2 2 = true ∧
          ∃ items, (s.rank true candidates none neverCancelled).1 = .ok items ∧
            ((start m).selectBest true candidates).1 = .ok items.head? ∧
              (start m).rank true candidates none (cancelledAfter 2)
                = (start m).rank true (candidates.take 2) none neverCancelled := by
  intro m candidates s
  have hopen : s.disposed = false := rfl
  have hbefore : ∀ i < 2, cancelledAfter 2 i = false := by decide
  have hthen : cancelledAfter 2 2 = true := rfl
  rcases rank_views m [.rank candidates (some 1)] [] true candidates hopen rfl with
    ⟨items, hitems, _, hcancelled, hbest, _⟩
  exact ⟨hopen, rfl, hbefore, hthen, items, hitems, hbest, hcancelled 2 none _ hbefore hthen⟩

end Session
end IdentSearch
