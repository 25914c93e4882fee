import IdentSearch.Matcher
import IdentSearch.Proofs.HumpCache.Coherence

/-!
What the rules find, without the monad that they run in: the answer of a chain of rules is the answer of
the first one that applies, and the humps are those of the candidate.
-/

namespace IdentSearch

namespace Attempt

def innerMatch (a : Attempt) : Option Match :=
  if a.chunk.isLowercase then
    (a.index true).bind fun position => (a.atPunctuation position).or (a.atHump (wordHumps a.candidate))
  else a.literally

def outcome (a : Attempt) : Option Match :=
  a.atBeginning.or (a.anywhere.or (a.innerMatch.or
    ((a.onHumps (wordHumps a.candidate)).or a.onCapital)))

end Attempt

namespace Segment

def outcome (find : Bool → Chunk → Option Match) (s : Segment) : Option Match :=
  (find false s.total).or ((s.words.mapM (find true)).bind Match.mergeAll)

end Segment

namespace Evaluation

variable {m : Type → Type} [Monad m] (e : Evaluation m)

theorem orTry {α : Type} (answer : Option α) {weaker : m (Option α)} {v : Option α}
    (h : e.HasValue weaker v) : e.HasValue (orTry answer weaker) (answer.or v) := by
  cases answer with
  | some a => exact e.pure (some a)
  | none => exact h

theorem ofAll {α : Type} {find : α → m (Option Match)} {value : α → Option Match} {as : List α}
    (h : ∀ a ∈ as, e.HasValue (find a) (value a))
    : e.HasValue (Match.ofAll find as) (as.mapM value) := by
  induction as with
  | nil => exact e.pure (some [])
  | cons a as ih =>
    have htail := ih fun b hb => h b (List.mem_cons_of_mem a hb)
    unfold Match.ofAll
    apply e.bind (h a List.mem_cons_self)
    rw [List.mapM_cons]
    cases value a with
    | none => exact e.pure none
    | some r =>
      have hmap : (do return r :: (← as.mapM value)) = (as.mapM value).map (r :: ·) := by
        cases as.mapM value <;> rfl
      show e.HasValue _ (do return r :: (← as.mapM value))
      rw [hmap]
      apply e.bind htail
      exact e.pure _

theorem findWith {find : Bool → Chunk → m (Option Match)} {value : Bool → Chunk → Option Match}
    (h : ∀ stripped c, e.HasValue (find stripped c) (value stripped c)) (s : Segment)
    : e.HasValue (s.findWith find) (s.outcome value) := by
  unfold Segment.findWith Segment.outcome
  apply e.bind (h false s.total)
  apply e.orTry
  apply e.bind (e.ofAll fun c _ => h true c)
  exact e.pure _

section
-- The rules ask for the humps of the candidate and of no other text.
variable {humpsOf : Text → m Spans} {a : Attempt}
variable (hhumps : e.HasValue (humpsOf a.candidate) (wordHumps a.candidate))
include hhumps

theorem inside : e.HasValue (a.inside humpsOf) a.innerMatch := by
  unfold Attempt.inside Attempt.innerMatch
  split
  . unfold Attempt.insideLowercase
    cases a.index true with
    | none => exact e.pure none
    | some position =>
      apply e.orTry
      apply e.bind hhumps
      exact e.pure _
  . exact e.pure a.literally

theorem attemptRun : e.HasValue (a.run humpsOf) a.outcome := by
  unfold Attempt.run Attempt.outcome
  apply e.orTry
  apply e.orTry
  apply e.bind (e.inside hhumps)
  apply e.orTry
  apply e.bind hhumps
  apply e.orTry
  exact e.pure a.onCapital

end

theorem run {humpsOf : Text → m Spans} (hhumps : ∀ t, e.HasValue (humpsOf t) (wordHumps t)) (a : Attempt)
    : e.HasValue (a.run humpsOf) a.outcome :=
  e.attemptRun (hhumps a.candidate)

end Evaluation
end IdentSearch
