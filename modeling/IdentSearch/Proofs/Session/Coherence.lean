import IdentSearch.Session.Step
import IdentSearch.Proofs.Matcher.Outcome

/-!
Whatever was asked of a matcher before, its store keeps right humps and its pattern stays. So an answer
depends on the pattern and the candidate only, until the matcher is given up.
-/

namespace IdentSearch

namespace History

variable {σ ι α : Type}

theorem after_induction {P : σ → Prop} {step : ι → σ → α × σ}
    (hstep : ∀ i s, P s → P (step i s).2) (is : List ι) {s : σ} (hs : P s)
    : P (after step is s) := by
  induction is generalizing s with
  | nil => exact hs
  | cons i is ih =>
    rw [after_cons]
    apply ih
    exact hstep i s hs

end History

namespace Session

/-! ### Single steps -/

theorem tryMatch_of_open {s : Session} (h : s.disposed = false) (candidate : Option Text)
    : s.tryMatch candidate
        =
      (.ok (s.matcher.run (HumpCache.get .words) candidate s.cache).1,
        { s with cache := (s.matcher.run (HumpCache.get .words) candidate s.cache).2 }) := by
  unfold Session.tryMatch
  rw [if_neg (Bool.eq_false_iff.mp h)]
  rfl

theorem tryMatch_of_disposed {s : Session} (h : s.disposed = true) (candidate : Option Text)
    : s.tryMatch candidate = (.error s.disposedError, s) := by
  unfold Session.tryMatch
  rw [if_pos h]

theorem filterMatches_cons_snd (cancelled : Cancellation) (seen : Nat) (c : Option Text)
    (cs : List (Option Text)) (s : Session)
    : (filterMatches cancelled seen (c :: cs) s).2
        =
      if cancelled seen || s.disposed then s
      else (filterMatches cancelled (seen + 1) cs (s.tryMatch c).2).2 := by
  rw [filterMatches]
  cases cancelled seen with
  | true => rfl
  | false =>
    cases hdisposed : s.disposed with
    | true =>
      rw [tryMatch_of_disposed hdisposed]
      rfl
    | false =>
      rw [tryMatch_of_open hdisposed, if_neg Bool.false_ne_true, Bool.or_self, if_neg Bool.false_ne_true]
      dsimp only
      generalize filterMatches cancelled (seen + 1) cs _ = rest
      rcases rest with ⟨answer, s'⟩
      cases answer with
      | error e => rfl
      | ok rs =>
        dsimp only
        split
        . rfl
        . rfl

theorem filterMatches_induction {P : Session → Prop}
    (htry : ∀ s candidate, P s → P (s.tryMatch candidate).2) (cancelled : Cancellation)
    (candidates : List (Option Text)) (seen : Nat) {s : Session} (hs : P s)
    : P (s.filterMatches cancelled seen candidates).2 := by
  induction candidates generalizing seen s with
  | nil => exact hs
  | cons c cs ih =>
    rw [filterMatches_cons_snd]
    split
    . exact hs
    . apply ih
      exact htry s c hs

/-! ### All sessions of a matcher -/

structure IsOf (m : Matcher) (s : Session) : Prop where
  matcher_eq : s.matcher = m
  coherent : s.cache.Coherent

variable {m : Matcher} {s : Session}

theorem start_isOf (m : Matcher) : (start m).IsOf m :=
  ⟨rfl, HumpCache.coherent_of_entries_eq_nil rfl⟩

theorem IsOf.withCache {α : Type} (h : s.IsOf m) {step : StateM HumpCache α} {v : α}
    (hstep : HumpCache.Yields step v)
    : (s.withCache step).1 = v ∧ (s.withCache step).2.IsOf m := by
  have hrun := hstep s.cache h.coherent
  constructor
  . exact hrun.1
  . constructor
    . exact h.matcher_eq
    . exact hrun.2

theorem IsOf.run (h : s.IsOf m) (candidate : Option Text)
    : HumpCache.Yields (s.matcher.run (HumpCache.get .words) candidate) (m.outcome candidate) := by
  rw [h.matcher_eq]
  apply HumpCache.evaluation.matcherRun
  intro c _ t _
  exact HumpCache.yields_get t

theorem IsOf.tryMatch (h : s.IsOf m) (candidate : Option Text) : (s.tryMatch candidate).2.IsOf m := by
  unfold Session.tryMatch
  split
  . exact h
  . exact (h.withCache (h.run candidate)).2

theorem IsOf.tryMatch_eq (h : s.IsOf m) (hopen : s.disposed = false) (candidate : Option Text)
    : (s.tryMatch candidate).1 = .ok (m.outcome candidate) := by
  have hrun := (h.run candidate s.cache h.coherent).1
  rw [tryMatch_of_open hopen, hrun]

theorem IsOf.dispose (h : s.IsOf m) : s.dispose.IsOf m := by
  unfold Session.dispose
  split
  . exact h
  . constructor
    . exact h.matcher_eq
    . exact HumpCache.coherent_of_entries_eq_nil rfl

theorem IsOf.step (i : Step) (h : s.IsOf m) : (step i s).2.IsOf m := by
  cases i with
  | tryMatch c => exact h.tryMatch c
  | rank cs limit => exact filterMatches_induction (fun _ c h => h.tryMatch c) neverCancelled cs 0 h
  | wordHumps w => exact (h.withCache (HumpCache.yields_get w)).2
  | enter => exact h
  | leave => exact h.dispose
  | dispose => exact h.dispose

theorem after_isOf (m : Matcher) (steps : List Step)
    : (History.after step steps (start m)).IsOf m := by
  apply History.after_induction (P := IsOf m)
  . intro i s h
    exact h.step i
  . exact start_isOf m

end Session
end IdentSearch
