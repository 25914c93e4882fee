import IdentSearch.Proofs.HumpCache.Growth
import IdentSearch.Proofs.Session.Filtering

/-!
The life of a matcher: until it is given up it answers as if it had never been asked before, and from then
on it answers no candidate and keeps nothing.
-/

namespace IdentSearch

namespace Session

def Step.disposes : Step → Bool
  | .leave => true
  | .dispose => true
  | _ => false

structure Serves (m : Matcher) (s : Session) : Prop where
  humps : ∀ p ∈ s.cache.entries, p.2 = IdentSearch.wordHumps p.1
  distinct : (s.cache.entries.map (·.1)).Nodup
  size : s.cache.size = s.cache.misses
  stores : ∀ candidate, ∀ t ∈ (s.tryMatch candidate).2.cache.texts,
    t ∈ s.cache.texts ∨ ∃ c, candidate = some c ∧ t ∈ m.texts c
  answers : ∀ i, (step i s).1 = (step i (start m)).1
  ranks : ∀ ignoreCase candidates limit cancelled,
    (s.rank ignoreCase candidates limit cancelled).1
      = ((start m).rank ignoreCase candidates limit cancelled).1
  -- Rankings of every sort leave what a step leaves, so that histories of steps lead to all states.
  leaves : ∀ ignoreCase candidates limit cancelled, ∃ asked,
    (s.rank ignoreCase candidates limit cancelled).2 = (step (.rank asked none) s).2

structure Retired (m : Matcher) (s : Session) : Prop where
  tryMatch : ∀ candidate, step (.tryMatch candidate) s = (.error (start m).disposedError, s)
  empty : s.cache.entries = []
  humps : ∀ w, (step (.wordHumps w) s).1 = .ok (.humps (IdentSearch.wordHumps w))
  leave : step .leave s = (.ok .done, s)
  dispose : step .dispose s = (.ok .done, s)

variable {m : Matcher} {s : Session}

/-! ### Until the matcher is given up -/

structure IsOpen (m : Matcher) (s : Session) : Prop where
  matcher_eq : s.matcher = m
  disposed_eq : s.disposed = false
  sound : s.cache.Sound

theorem start_isOpen (m : Matcher) : (start m).IsOpen m :=
  ⟨rfl, rfl, HumpCache.sound_empty⟩

namespace IsOpen

theorem isOf (h : s.IsOpen m) : s.IsOf m := ⟨h.matcher_eq, h.sound.coherent⟩

theorem run (h : s.IsOpen m) (candidate : Option Text)
    : HumpCache.YieldsAdding (fun t => ∃ c, candidate = some c ∧ t ∈ m.texts c)
        (s.matcher.run (HumpCache.get .words) candidate) (m.outcome candidate) := by
  rw [h.matcher_eq]
  apply (HumpCache.evaluationAdding _).matcherRun
  intro c hc t ht
  apply HumpCache.yieldsAdding_get
  exact ⟨c, hc, ht⟩

theorem tryMatch (h : s.IsOpen m) (candidate : Option Text) : (s.tryMatch candidate).2.IsOpen m := by
  rw [tryMatch_of_open h.disposed_eq]
  constructor
  . exact h.matcher_eq
  . exact h.disposed_eq
  . exact (h.run candidate s.cache h.sound).2.1

theorem wordHumps (h : s.IsOpen m) (w : Text) : (s.wordHumps w).2.IsOpen m := by
  have hget : HumpCache.YieldsAdding (· = w) (HumpCache.get .words w) (IdentSearch.wordHumps w) :=
    HumpCache.yieldsAdding_get rfl
  constructor
  . exact h.matcher_eq
  . exact h.disposed_eq
  . exact (hget s.cache h.sound).2.1

theorem step {i : Step} (hi : i.disposes = false) (h : s.IsOpen m) : (step i s).2.IsOpen m := by
  cases i with
  | tryMatch c => exact h.tryMatch c
  | rank cs limit => exact filterMatches_induction (fun _ c h => h.tryMatch c) neverCancelled cs 0 h
  | wordHumps w => exact h.wordHumps w
  | enter => exact h
  | leave => cases hi
  | dispose => cases hi

theorem serves (h : s.IsOpen m) : Serves m s := by
  have hnew := start_isOpen m
  constructor
  . exact h.sound.coherent
  . exact h.sound.distinct
  . exact h.sound.size_eq
  . intro candidate
    rw [tryMatch_of_open h.disposed_eq]
    exact (h.run candidate s.cache h.sound).2.2
  . intro i
    cases i with
    | tryMatch c =>
      show (s.tryMatch c).1.map _ = ((start m).tryMatch c).1.map _
      rw [h.isOf.tryMatch_eq h.disposed_eq, hnew.isOf.tryMatch_eq rfl]
    | rank cs limit =>
      show (s.rank false cs limit neverCancelled).1.map _
        = ((start m).rank false cs limit neverCancelled).1.map _
      rw [h.isOf.rank_eq h.disposed_eq, hnew.isOf.rank_eq rfl]
    | wordHumps w =>
      have hhumps := HumpCache.yields_get w
      show Except.ok (Answer.humps (s.wordHumps w).1) = .ok (.humps ((start m).wordHumps w).1)
      unfold Session.wordHumps
      rw [(h.isOf.withCache hhumps).1, (hnew.isOf.withCache hhumps).1]
    | enter => rfl
    | leave => rfl
    | dispose => rfl
  . intro ignoreCase candidates limit cancelled
    rw [h.isOf.rank_eq h.disposed_eq, hnew.isOf.rank_eq rfl]
  . intro ignoreCase candidates limit cancelled
    exact ⟨lookedAt cancelled 0 candidates, filterMatches_lookedAt cancelled candidates 0 0 s⟩

end IsOpen

/-! ### From then on -/

structure IsGivenUp (m : Matcher) (s : Session) : Prop where
  matcher_eq : s.matcher = m
  disposed_eq : s.disposed = true
  closed : s.cache.closed = true
  entries_eq : s.cache.entries = []

theorem IsOpen.dispose (h : s.IsOpen m) : s.dispose.IsGivenUp m := by
  unfold Session.dispose
  rw [if_neg (Bool.eq_false_iff.mp h.disposed_eq)]
  exact ⟨h.matcher_eq, rfl, rfl, rfl⟩

namespace IsGivenUp

theorem dispose (h : s.IsGivenUp m) : s.dispose = s := if_pos h.disposed_eq

theorem filterMatches (h : s.IsGivenUp m) (cancelled : Cancellation) (candidates : List (Option Text))
    (seen : Nat) : (s.filterMatches cancelled seen candidates).2 = s := by
  cases candidates with
  | nil => rfl
  | cons c cs => rw [filterMatches_cons_snd, h.disposed_eq, Bool.or_true, if_pos rfl]

theorem wordHumps (h : s.IsGivenUp m) (w : Text)
    : s.wordHumps w = (IdentSearch.wordHumps w, { s with cache := s.cache.missed .words w }) := by
  have hfind : s.cache.find? w = none := by
    rw [HumpCache.find?, h.entries_eq]
    rfl
  unfold Session.wordHumps withCache
  rw [HumpCache.get_of_find?_eq_none hfind]
  rfl

theorem step (i : Step) (h : s.IsGivenUp m) : (step i s).2.IsGivenUp m := by
  have hsame : s.dispose.IsGivenUp m := by
    rw [h.dispose]
    exact h
  cases i with
  | tryMatch c =>
    show (s.tryMatch c).2.IsGivenUp m
    rw [tryMatch_of_disposed h.disposed_eq]
    exact h
  | rank cs limit =>
    show (s.filterMatches neverCancelled 0 cs).2.IsGivenUp m
    rw [h.filterMatches]
    exact h
  | wordHumps w =>
    show (s.wordHumps w).2.IsGivenUp m
    rw [h.wordHumps]
    constructor
    . exact h.matcher_eq
    . exact h.disposed_eq
    . exact Bool.or_eq_true_iff.mpr (.inl h.closed)
    . simp [HumpCache.missed, h.closed, h.entries_eq]
  | enter => exact h
  | leave => exact hsame
  | dispose => exact hsame

theorem retired (h : s.IsGivenUp m) : Retired m s := by
  constructor
  . intro candidate
    have herror : s.disposedError = (start m).disposedError := by
      unfold disposedError
      rw [h.matcher_eq]
      rfl
    rw [Session.step, tryMatch_of_disposed h.disposed_eq, herror]
    rfl
  . exact h.entries_eq
  . intro w
    rw [Session.step, h.wordHumps]
  . rw [Session.step, h.dispose]
  . rw [Session.step, h.dispose]

end IsGivenUp

/-! ### All histories -/

theorem after_of_isGivenUp (steps : List Step) (h : s.IsGivenUp m)
    : (History.after step steps s).IsGivenUp m := by
  apply History.after_induction (P := IsGivenUp m) _ steps h
  intro i s hs
  exact hs.step i

theorem after_of_isOpen (steps : List Step) (h : s.IsOpen m)
    : if steps.any (·.disposes) then (History.after step steps s).IsGivenUp m
      else (History.after step steps s).IsOpen m := by
  induction steps generalizing s with
  | nil => exact h
  | cons i is ih =>
    rw [History.after_cons, List.any_cons]
    cases hi : i.disposes with
    | false => exact ih (h.step hi)
    | true =>
      apply after_of_isGivenUp
      cases i with
      | leave => exact h.dispose
      | dispose => exact h.dispose
      | tryMatch | rank | wordHumps | enter => cases hi

theorem after_lifecycle (m : Matcher) (steps : List Step)
    : if steps.any (·.disposes) then Retired m (History.after step steps (start m))
      else Serves m (History.after step steps (start m)) := by
  have hafter := after_of_isOpen steps (start_isOpen m)
  split
  . next hdisposes =>
    rw [if_pos hdisposes] at hafter
    exact hafter.retired
  . next hdisposes =>
    rw [if_neg hdisposes] at hafter
    exact hafter.serves

end Session
end IdentSearch
