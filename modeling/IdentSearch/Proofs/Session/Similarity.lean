import IdentSearch.Proofs.Match.Merging
import IdentSearch.Proofs.Session.Coherence

/-!
Accepting similar candidates adds matches and changes none: a match by the rules stays as it is, and where
there is none, similarity adds at most a bare fuzzy match. The store of humps does not notice.
-/

namespace IdentSearch

/-! ### What similarity finds -/

structure Match.IsBare (r : Match) : Prop where
  kind : r.kind = .fuzzy
  caseSensitive : r.caseSensitive = false
  spans : r.spans = []

theorem Match.IsBare.merge {r m : Match} (hr : r.IsBare) (hm : m.IsBare) : (r.merge m).IsBare := by
  constructor
  . show r.kind.weaker m.kind = .fuzzy
    rw [hr.kind, hm.kind]
    rfl
  . show (r.caseSensitive && m.caseSensitive) = false
    rw [hr.caseSensitive, Bool.false_and]
  . show Spans.union r.spans m.spans = []
    rw [hr.spans, hm.spans]
    rfl

theorem Attempt.fuzzily_isBare {a : Attempt} {r : Match} (h : a.fuzzily = some r) : r.IsBare := by
  unfold Attempt.fuzzily at h
  split at h
  . cases h
    exact ⟨rfl, rfl, rfl⟩
  . cases h

theorem Segment.answer_isBare {settings : Settings} {s : Segment} {candidate : Text} {offset : Nat}
    {r : Match} (h : s.answer true settings candidate offset = some r) : r.IsBare := by
  unfold Segment.answer Segment.outcome at h
  rcases Option.or_eq_some_iff.mp h with htotal | ⟨_, hwords⟩
  . exact Attempt.fuzzily_isBare htotal
  . apply of_mapM_bind_mergeAll (fun _ _ => Match.IsBare.merge) _ hwords
    intro c _ m hm
    exact Attempt.fuzzily_isBare hm

namespace Matcher

theorem fuzzily_isBare {m : Matcher} {candidate : Text} {r : Match} (h : m.fuzzily candidate = some r)
    : r.IsBare := by
  rw [fuzzily_eq] at h
  split at h
  . unfold answer at h
    split at h
    . exact Segment.answer_isBare h
    . dsimp only at h
      split at h
      . cases h
      . apply of_mapM_bind_mergeAll (fun _ _ => Match.IsBare.merge) _ h
        intro laid _ m hm
        exact Segment.answer_isBare hm
  . cases h

/-! ### The same matcher with and without similarity -/

def allowing (fuzzy : Bool) (m : Matcher) : Matcher :=
  { m with settings := { m.settings with allowFuzzy := fuzzy } }

theorem create_map {o o' : Options} {change : Matcher → Matcher} (hseparators : o'.separators = o.separators)
    (hsimple : ∀ p, simple p o' = change (simple p o))
    (hcontainers : ∀ ps s, containers ps s o' = change (containers ps s o)) (pattern : Option Text)
    : create pattern (some o') = (create pattern (some o)).map change := by
  unfold create
  cases pattern with
  | none => rfl
  | some p =>
    dsimp only
    rw [hseparators]
    split
    . rfl
    . cases o.separators with
      | none => exact congrArg Except.ok (hsimple p)
      | some s =>
        dsimp only
        split
        . rfl
        . exact congrArg Except.ok (hcontainers _ s)

theorem create_allowing (pattern : Option Text) (o : Options) (fuzzy : Bool)
    : create pattern (some { o with allowFuzzy := fuzzy })
        =
      (create pattern (some o)).map (·.allowing fuzzy) := by
  apply create_map
  . rfl
  . intro p
    rfl
  . intro ps s
    rfl

-- The rules read the other settings only, so that the switch can be taken out of the whole pass.
theorem strictly_allowing (m : Matcher) (fuzzy : Bool) (candidate : Text)
    : (m.allowing fuzzy).strictly (HumpCache.get .words) candidate
        =
      m.strictly (HumpCache.get .words) candidate :=
  rfl

theorem orTry_pure (answer weaker : Option Match) (c : HumpCache)
    : (orTry answer (pure weaker) : StateM HumpCache (Option Match)) c = (answer.or weaker, c) := by
  cases answer with
  | none => rfl
  | some r => rfl

theorem run_some {m : Matcher} {candidate : Text} (hvalid : (m.isInvalid || candidate.isBlank) = false)
    (c : HumpCache)
    : m.run (HumpCache.get .words) (some candidate) c
        =
      ((m.strictly (HumpCache.get .words) candidate c).1.or (m.fuzzily candidate),
        (m.strictly (HumpCache.get .words) candidate c).2) := by
  unfold run
  dsimp only
  rw [if_neg (Bool.eq_false_iff.mp hvalid)]
  apply orTry_pure

/-- What accepting similar candidates may make of an answer. -/
def Extends (strict loose : Option Match) : Prop :=
  match strict with
  | some r => loose = some r
  | none => ∀ r, loose = some r → r.IsBare

theorem run_allowing (m : Matcher) (candidate : Option Text) (c : HumpCache)
    : Extends ((m.allowing false).run (HumpCache.get .words) candidate c).1
          ((m.allowing true).run (HumpCache.get .words) candidate c).1 ∧
        ((m.allowing false).run (HumpCache.get .words) candidate c).2
          = ((m.allowing true).run (HumpCache.get .words) candidate c).2 := by
  have hnone : Extends none none ∧ c = c := by
    refine ⟨?_, rfl⟩
    intro r hr
    cases hr
  cases candidate with
  | none => exact hnone
  | some t =>
    cases hvalid : m.isInvalid || t.isBlank with
    | true =>
      have hrun : ∀ fuzzy, (m.allowing fuzzy).run (HumpCache.get .words) (some t) c = (none, c) := by
        intro fuzzy
        unfold run
        exact congrFun (if_pos hvalid) c
      rw [hrun, hrun]
      exact hnone
    | false =>
      have hvalid' : ∀ fuzzy, ((m.allowing fuzzy).isInvalid || t.isBlank) = false := fun _ => hvalid
      have hstrict : (m.allowing false).fuzzily t = none := rfl
      rw [run_some (hvalid' false), run_some (hvalid' true), strictly_allowing, strictly_allowing, hstrict]
      refine ⟨?_, rfl⟩
      cases (m.strictly (HumpCache.get .words) t c).1 with
      | some r => rfl
      | none =>
        intro r hr
        simp only [Option.none_or] at hr
        exact fuzzily_isBare hr

end Matcher

/-! ### Sessions side by side -/

namespace Session

structure Paired (m : Matcher) (strict loose : Session) : Prop where
  strict_eq : strict.matcher = m.allowing false
  loose_eq : loose.matcher = m.allowing true
  cache_eq : strict.cache = loose.cache
  disposed_eq : strict.disposed = loose.disposed

namespace Paired

variable {m : Matcher} {strict loose : Session}

theorem tryMatch (h : Paired m strict loose) (candidate : Option Text)
    : Paired m (strict.tryMatch candidate).2 (loose.tryMatch candidate).2 := by
  cases hdisposed : strict.disposed with
  | true =>
    rw [tryMatch_of_disposed hdisposed, tryMatch_of_disposed (h.disposed_eq ▸ hdisposed)]
    exact h
  | false =>
    rw [tryMatch_of_open hdisposed, tryMatch_of_open (h.disposed_eq ▸ hdisposed)]
    constructor
    . exact h.strict_eq
    . exact h.loose_eq
    . dsimp only
      rw [h.strict_eq, h.loose_eq, ← h.cache_eq]
      exact (m.run_allowing candidate strict.cache).2
    . exact h.disposed_eq

theorem filterMatches (cancelled : Cancellation) (candidates : List (Option Text)) (seen : Nat)
    (h : Paired m strict loose)
    : Paired m (strict.filterMatches cancelled seen candidates).2
        (loose.filterMatches cancelled seen candidates).2 := by
  induction candidates generalizing seen strict loose with
  | nil => exact h
  | cons c cs ih =>
    rw [filterMatches_cons_snd, filterMatches_cons_snd, h.disposed_eq]
    split
    . exact h
    . apply ih
      exact h.tryMatch c

theorem wordHumps (h : Paired m strict loose) (w : Text)
    : Paired m (strict.wordHumps w).2 (loose.wordHumps w).2 := by
  constructor
  . exact h.strict_eq
  . exact h.loose_eq
  . show (HumpCache.get .words w strict.cache).2 = (HumpCache.get .words w loose.cache).2
    rw [h.cache_eq]
  . exact h.disposed_eq

theorem dispose (h : Paired m strict loose) : Paired m strict.dispose loose.dispose := by
  unfold Session.dispose
  rw [h.disposed_eq]
  split
  . exact h
  . constructor
    . exact h.strict_eq
    . exact h.loose_eq
    . show (HumpCache.close strict.cache).2 = (HumpCache.close loose.cache).2
      rw [h.cache_eq]
    . rfl

theorem step (i : Step) (h : Paired m strict loose) : Paired m (step i strict).2 (step i loose).2 := by
  cases i with
  | tryMatch c => exact h.tryMatch c
  | rank cs limit => exact h.filterMatches neverCancelled cs 0
  | wordHumps w => exact h.wordHumps w
  | enter => exact h
  | leave => exact h.dispose
  | dispose => exact h.dispose

theorem after (steps : List Step) (h : Paired m strict loose)
    : Paired m (History.after Session.step steps strict) (History.after Session.step steps loose) := by
  induction steps generalizing strict loose with
  | nil => exact h
  | cons i is ih =>
    rw [History.after_cons, History.after_cons]
    apply ih
    exact h.step i

end Paired

def Extends (strict loose : Except Error (Option Match)) : Prop :=
  match strict, loose with
  | .ok r, .ok r' => Matcher.Extends r r'
  | .error e, .error e' => e = e'
  | _, _ => False

theorem Paired.tryMatch_extends {m : Matcher} {strict loose : Session} (h : Paired m strict loose)
    (candidate : Option Text) : Extends (strict.tryMatch candidate).1 (loose.tryMatch candidate).1 := by
  cases hdisposed : strict.disposed with
  | true =>
    rw [tryMatch_of_disposed hdisposed, tryMatch_of_disposed (h.disposed_eq ▸ hdisposed)]
    unfold Extends disposedError
    rw [h.strict_eq, h.loose_eq]
    rfl
  | false =>
    rw [tryMatch_of_open hdisposed, tryMatch_of_open (h.disposed_eq ▸ hdisposed)]
    unfold Extends
    rw [h.strict_eq, h.loose_eq, ← h.cache_eq]
    exact (m.run_allowing candidate strict.cache).1

theorem start_paired (m : Matcher) : Paired m (start (m.allowing false)) (start (m.allowing true)) :=
  ⟨rfl, rfl, rfl, rfl⟩

theorem tryMatch_allowing (pattern : Option Text) (o : Options)
    : (∀ fuzzy, Matcher.create pattern (some { o with allowFuzzy := fuzzy })
          = (Matcher.create pattern (some o)).map (·.allowing fuzzy)) ∧
        ∀ (m : Matcher) (steps : List Step) (candidate : Option Text),
          let strict := (History.after step steps (start (m.allowing false))).tryMatch candidate
          let loose := (History.after step steps (start (m.allowing true))).tryMatch candidate
          Extends strict.1 loose.1 ∧ strict.2.cache = loose.2.cache := by
  constructor
  . exact Matcher.create_allowing pattern o
  . intro m steps candidate
    have hpaired := (start_paired m).after steps
    exact ⟨hpaired.tryMatch_extends candidate, (hpaired.tryMatch candidate).cache_eq⟩

end Session
end IdentSearch
