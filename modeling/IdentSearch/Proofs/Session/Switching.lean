import IdentSearch.Proofs.Matcher.Loosening
import IdentSearch.Proofs.Matcher.Marking
import IdentSearch.Proofs.Session.Lifecycle

/-!
One option switched in a matcher in use. Finding patterns anywhere loses no candidate and no match that was
typed; marking matched positions tells the positions and leaves the rest of a match as it is.
-/

namespace IdentSearch

namespace Matcher

structure Unmarks (candidate : Option Text) (bare marked : Option Match) : Prop where
  bare_eq : bare = marked.map (·.withSpans [])
  marks : ∀ t r, candidate = some t → marked = some r → r.kind ≠ .fuzzy → r.Marks t

theorem outcome_unmarks (m : Matcher) (candidate : Option Text)
    : Unmarks candidate ((m.marking false).outcome candidate) ((m.marking true).outcome candidate) := by
  constructor
  . exact outcome_marking m candidate
  . intro t r hcandidate h hkind
    rw [hcandidate] at h
    rcases answer_of_outcome h hkind with ⟨hvalid, hanswer⟩
    apply answer_marks _ hvalid hanswer
    rfl

theorem create_searching (pattern : Option Text) (o : Options) (anywhere : Bool)
    : create pattern (some { o with allowSubstring := anywhere })
        =
      (create pattern (some o)).map (·.searching anywhere) := by
  apply create_map
  . rfl
  . intro p
    rfl
  . intro ps s
    rfl

theorem create_marking (pattern : Option Text) (o : Options) (spans : Bool)
    : create pattern (some { o with includeSpans := spans })
        =
      (create pattern (some o)).map (·.marking spans) := by
  apply create_map
  . rfl
  . intro p
    rfl
  . intro ps s
    rfl

end Matcher

namespace Session

def Related (R : Option Match → Option Match → Prop) (answer answer' : Except Error (Option Match)) : Prop :=
  match answer, answer' with
  | .ok r, .ok r' => R r r'
  | .error e, .error e' => e = e'
  | _, _ => False

theorem tryMatch_related {R : Option Match → Option Match → Prop} {m m' : Matcher}
    (hstrategy : m.strategy = m'.strategy) (steps : List Step) {candidate : Option Text}
    (h : R (m.outcome candidate) (m'.outcome candidate))
    : Related R ((History.after step steps (start m)).tryMatch candidate).1
        ((History.after step steps (start m')).tryMatch candidate).1 := by
  have hafter := after_of_isOpen steps (start_isOpen m)
  have hafter' := after_of_isOpen steps (start_isOpen m')
  cases hdisposes : steps.any (·.disposes) with
  | true =>
    rw [if_pos hdisposes] at hafter hafter'
    rw [tryMatch_of_disposed hafter.disposed_eq, tryMatch_of_disposed hafter'.disposed_eq]
    unfold Related disposedError
    rw [hafter.matcher_eq, hafter'.matcher_eq, hstrategy]
  | false =>
    rw [if_neg (Bool.eq_false_iff.mp hdisposes)] at hafter hafter'
    rw [hafter.isOf.tryMatch_eq hafter.disposed_eq, hafter'.isOf.tryMatch_eq hafter'.disposed_eq]
    exact h

theorem tryMatch_switched (pattern : Option Text) (o : Options)
    : (∀ anywhere, Matcher.create pattern (some { o with allowSubstring := anywhere })
          = (Matcher.create pattern (some o)).map (·.searching anywhere)) ∧
        (∀ spans, Matcher.create pattern (some { o with includeSpans := spans })
          = (Matcher.create pattern (some o)).map (·.marking spans)) ∧
          ∀ (m : Matcher) (steps : List Step) (candidate : Option Text),
            let answer := fun m => ((History.after step steps (start m)).tryMatch candidate).1
            Related m.Loosens (answer (m.searching false)) (answer (m.searching true)) ∧
              Related (Matcher.Unmarks candidate) (answer (m.marking false)) (answer (m.marking true)) := by
  refine ⟨Matcher.create_searching pattern o, Matcher.create_marking pattern o, ?_⟩
  intro m steps candidate answer
  constructor
  . apply tryMatch_related
    . rfl
    . exact m.outcome_searching candidate
  . apply tryMatch_related
    . rfl
    . exact m.outcome_unmarks candidate

end Session
end IdentSearch
