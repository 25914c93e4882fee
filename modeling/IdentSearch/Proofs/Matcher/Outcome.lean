import IdentSearch.Proofs.Cascade.Outcome

/-!
What matchers find, without the monad that the rules run in: the answers of segments, of whole passes over
a candidate, and of the two passes together.
-/

namespace IdentSearch

namespace Segment

theorem text_ne_nil {s : Segment} (h : s.isInvalid = false) : s.text ≠ [] := by
  intro hnil
  rw [isInvalid, hnil] at h
  cases h

def answer (fuzzy : Bool) (settings : Settings) (s : Segment) (candidate : Text) (offset : Nat)
    : Option Match :=
  s.outcome fun stripped c =>
    if fuzzy then (attempt settings candidate offset stripped c).fuzzily
    else (attempt settings candidate offset stripped c).outcome

theorem fuzzily_eq_answer (settings : Settings) (s : Segment) (candidate : Text) (offset : Nat)
    : s.fuzzily settings candidate offset = s.answer true settings candidate offset := by
  unfold fuzzily
  apply Evaluation.id.findWith
  intro stripped c
  exact Evaluation.id.pure _

end Segment

namespace Matcher

theorem isInvalid_of_mem_segments {m : Matcher} {s : Segment} (h : m.isInvalid = false)
    (hs : s ∈ m.segments) : s.isInvalid = false := by
  rw [isInvalid, Bool.or_eq_false_iff, List.any_eq_false] at h
  exact Bool.eq_false_iff.mpr (h.2 s hs)

def texts (m : Matcher) (candidate : Text) : List Text :=
  match m.strategy with
  | .simple _ => [candidate]
  | .containers _ separators => (candidate.splitNonempty separators.contains).map (·.text)

def answerAt (fuzzy : Bool) (m : Matcher) (laid : Segment × Piece) : Option Match :=
  laid.1.answer fuzzy m.settings laid.2.text laid.2.start

def answer (fuzzy : Bool) (m : Matcher) (candidate : Text) : Option Match :=
  match m.strategy with
  | .simple segment => segment.answer fuzzy m.settings candidate 0
  | .containers segments separators =>
    let parts := candidate.splitNonempty separators.contains
    if parts.length < segments.length then none
    else ((layOut segments parts).mapM (m.answerAt fuzzy)).bind Match.mergeAll

def outcome (m : Matcher) (candidate : Option Text) : Option Match :=
  match candidate with
  | none => none
  | some c =>
    if m.isInvalid || c.isBlank then none
    else (m.answer false c).or (if m.settings.allowFuzzy then m.answer true c else none)

end Matcher

namespace Evaluation

variable {m : Type → Type} [Monad m] (e : Evaluation m)

theorem pass {find : Segment → Text → Nat → m (Option Match)} {fuzzy : Bool} {w : Matcher}
    {candidate : Text}
    (h : ∀ s, ∀ text ∈ w.texts candidate, ∀ offset,
      e.HasValue (find s text offset) (s.answer fuzzy w.settings text offset))
    : e.HasValue (w.pass candidate find) (w.answer fuzzy candidate) := by
  unfold Matcher.texts at h
  unfold Matcher.pass Matcher.answer
  cases hstrategy : w.strategy with
  | simple segment =>
    rw [hstrategy] at h
    exact h segment candidate (List.mem_singleton_self candidate) 0
  | containers segments separators =>
    rw [hstrategy] at h
    dsimp only
    split
    . exact e.pure none
    . apply e.bind
      . apply e.ofAll
        intro laid hlaid
        apply h
        exact List.mem_map_of_mem (List.mem_reverse.mp (List.of_mem_zip hlaid).2)
      . exact e.pure _

end Evaluation

theorem Matcher.fuzzily_eq (w : Matcher) (candidate : Text)
    : w.fuzzily candidate = if w.settings.allowFuzzy then w.answer true candidate else none := by
  unfold Matcher.fuzzily
  split
  . apply Evaluation.id.pass
    intro s text _ offset
    exact s.fuzzily_eq_answer w.settings text offset
  . rfl

namespace Evaluation

variable {m : Type → Type} [Monad m] (e : Evaluation m)

section
variable {humpsOf : Text → m Spans}

theorem segmentRun (settings : Settings) (s : Segment) {candidate : Text} (offset : Nat)
    (hhumps : e.HasValue (humpsOf candidate) (wordHumps candidate))
    : e.HasValue (s.run humpsOf settings candidate offset)
        (s.answer false settings candidate offset) := by
  unfold Segment.run Segment.answer
  apply e.findWith
  intro stripped c
  exact e.attemptRun hhumps

theorem strictly {w : Matcher} {candidate : Text}
    (hhumps : ∀ t ∈ w.texts candidate, e.HasValue (humpsOf t) (wordHumps t))
    : e.HasValue (w.strictly humpsOf candidate) (w.answer false candidate) := by
  unfold Matcher.strictly
  apply e.pass
  intro s text htext offset
  exact e.segmentRun w.settings s offset (hhumps text htext)

theorem matcherRun {w : Matcher} {candidate : Option Text}
    (hhumps : ∀ c ∈ candidate, ∀ t ∈ w.texts c, e.HasValue (humpsOf t) (wordHumps t))
    : e.HasValue (w.run humpsOf candidate) (w.outcome candidate) := by
  unfold Matcher.run Matcher.outcome
  cases candidate with
  | none => exact e.pure none
  | some c =>
    dsimp only
    split
    . exact e.pure none
    . apply e.bind (e.strictly (hhumps c rfl))
      apply e.orTry
      rw [Matcher.fuzzily_eq]
      exact e.pure _

end

end Evaluation
end IdentSearch
