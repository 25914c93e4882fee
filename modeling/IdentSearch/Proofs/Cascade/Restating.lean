import IdentSearch.Proofs.Match.Merging
import IdentSearch.Proofs.Matcher.Outcome

/-!
Attempts that find the same and only say it in different words: elsewhere in the text, or without spans. What
every single match becomes, a merged one becomes as well, so the change passes through all rules, segments and
passes.
-/

namespace IdentSearch

namespace Attempt

-- What `b` finds is what `a` finds, changed by a function. The two attempts read the same chunk and candidate by
-- the same rules; where the candidate starts and what is said of a match may differ.
structure Restates (change : Match → Match) (a b : Attempt) : Prop where
  folding_eq : b.settings.folding = a.settings.folding
  allowFuzzy_eq : b.settings.allowFuzzy = a.settings.allowFuzzy
  allowSubstring_eq : b.settings.allowSubstring = a.settings.allowSubstring
  candidate_eq : b.candidate = a.candidate
  chunk_eq : b.chunk = a.chunk
  found_eq : ∀ kind caseSensitive, ∀ spans : Spans,
    b.found kind caseSensitive (spans.map (·.shift b.offset))
      = change (a.found kind caseSensitive (spans.map (·.shift a.offset)))
  bare_eq : (⟨.fuzzy, b.stripped, false, []⟩ : Match) = change ⟨.fuzzy, a.stripped, false, []⟩

namespace Restates

variable {change : Match → Match} {a b : Attempt} (h : Restates change a b)
variable (kind : Kind) (caseSensitive : Bool) (position : Nat) (humps : Spans)
include h

theorem index_eq (ignoreCase : Bool) : b.index ignoreCase = a.index ignoreCase := by
  unfold index
  rw [h.folding_eq, h.candidate_eq, h.chunk_eq]

theorem partStarts_eq (ignoreCase : Bool) : b.partStarts ignoreCase = a.partStarts ignoreCase := by
  funext part
  unfold partStarts
  rw [h.folding_eq, h.candidate_eq, h.chunk_eq]

theorem found_span_eq (length : Nat)
    : b.found kind caseSensitive [⟨b.offset + position, length⟩]
        =
      change (a.found kind caseSensitive [⟨a.offset + position, length⟩]) := by
  rw [Nat.add_comm b.offset, Nat.add_comm a.offset]
  exact h.found_eq kind caseSensitive [⟨position, length⟩]

theorem atBeginning_eq : b.atBeginning = a.atBeginning.map change := by
  unfold atBeginning
  rw [h.index_eq, h.candidate_eq, h.chunk_eq, h.folding_eq]
  split
  . split
    . exact congrArg some (h.found_span_eq _ _ 0 _)
    . exact congrArg some (h.found_span_eq _ _ 0 _)
  . rfl

theorem substringAt_eq : b.substringAt position = change (a.substringAt position) := by
  unfold substringAt spanAt
  rw [h.partStarts_eq, h.chunk_eq]
  exact h.found_span_eq _ _ position _

theorem anywhere_eq : b.anywhere = a.anywhere.map change := by
  unfold anywhere
  rw [h.index_eq, h.allowSubstring_eq]
  split
  . rw [Option.map_map]
    congr 1
    funext position
    exact h.substringAt_eq position
  . rfl

theorem atPunctuation_eq : b.atPunctuation position = (a.atPunctuation position).map change := by
  unfold atPunctuation
  rw [h.substringAt_eq position, h.candidate_eq, h.chunk_eq, apply_ite (Option.map _)]
  rfl

theorem atHump_eq : b.atHump humps = (a.atHump humps).map change := by
  unfold atHump spanAt
  rw [Option.map_map, h.partStarts_eq, h.partStarts_eq, h.chunk_eq]
  congr 1
  funext s
  exact h.found_span_eq _ _ s.start _

theorem literally_eq : b.literally = a.literally.map change := by
  unfold literally spanAt
  rw [h.index_eq, h.chunk_eq]
  split
  . next n _ => exact congrArg some (h.found_span_eq _ _ (n + 1) _)
  . rfl

theorem innerMatch_eq : b.innerMatch = a.innerMatch.map change := by
  unfold innerMatch
  rw [h.index_eq, h.chunk_eq, h.candidate_eq]
  split
  . rw [Option.map_bind]
    congr 1
    funext position
    rw [h.atPunctuation_eq, h.atHump_eq, Function.comp_apply, Option.map_or]
  . exact h.literally_eq

theorem aligned_eq (alignment : Alignment)
    : b.aligned caseSensitive alignment = change (a.aligned caseSensitive alignment) := by
  unfold aligned Alignment.shift
  rw [Spans.normalize_map_shift, Spans.normalize_map_shift]
  exact h.found_eq alignment.kind caseSensitive _

theorem onHumps_eq : b.onHumps humps = (a.onHumps humps).map change := by
  have haligned : ∀ (flag : Bool) (found : Option Alignment),
      found.map (b.aligned flag) = (found.map (a.aligned flag)).map change := by
    intro flag found
    rw [Option.map_map]
    congr 1
    funext alignment
    exact h.aligned_eq flag alignment
  unfold onHumps
  dsimp only
  rw [h.folding_eq, h.candidate_eq, h.chunk_eq]
  split
  . exact haligned false _
  . cases Greedy.align a.settings.folding false a.candidate humps a.chunk with
    | some alignment => exact haligned true (some alignment)
    | none => exact haligned false _

theorem onCapital_eq : b.onCapital = a.onCapital.map change := by
  unfold onCapital spanAt
  rw [h.index_eq, h.candidate_eq, h.chunk_eq]
  split
  . next position _ =>
    rw [h.found_span_eq, apply_ite (Option.map _)]
    rfl
  . rfl

theorem outcome_eq : b.outcome = a.outcome.map change := by
  unfold outcome
  rw [Option.map_or, Option.map_or, Option.map_or, Option.map_or, ← h.atBeginning_eq, ← h.anywhere_eq,
    ← h.innerMatch_eq, ← h.onHumps_eq, ← h.onCapital_eq, h.candidate_eq]

theorem fuzzily_eq : b.fuzzily = a.fuzzily.map change := by
  unfold fuzzily
  rw [h.allowFuzzy_eq, h.folding_eq, h.candidate_eq, h.chunk_eq, h.bare_eq, apply_ite (Option.map _)]
  rfl

end Restates

end Attempt

section
variable {change : Match → Match} (hmerge : ∀ r m, (change r).merge (change m) = change (r.merge m))
include hmerge

namespace Segment

theorem outcome_map (find : Bool → Chunk → Option Match) (s : Segment)
    : s.outcome (fun stripped c => (find stripped c).map change) = (s.outcome find).map change := by
  unfold outcome
  rw [Option.map_or, mapM_map_right, Option.map_bind, Option.bind_map]
  congr 2
  funext ms
  exact Match.mergeAll_map hmerge ms

theorem answer_map {settings settings' : Settings} {candidate : Text} {offset offset' : Nat}
    (hrestates : ∀ stripped c,
      Attempt.Restates change (attempt settings candidate offset stripped c)
        (attempt settings' candidate offset' stripped c))
    (fuzzy : Bool) (s : Segment)
    : s.answer fuzzy settings' candidate offset' = (s.answer fuzzy settings candidate offset).map change := by
  unfold answer
  rw [← outcome_map hmerge]
  congr 1
  funext stripped c
  cases fuzzy with
  | false => exact (hrestates stripped c).outcome_eq
  | true => exact (hrestates stripped c).fuzzily_eq

end Segment

namespace Matcher

variable {m m' : Matcher} (hstrategy : m'.strategy = m.strategy)
variable (hallow : m'.settings.allowFuzzy = m.settings.allowFuzzy)
variable (hrestates : ∀ candidate offset stripped c,
  Attempt.Restates change (Segment.attempt m.settings candidate offset stripped c)
    (Segment.attempt m'.settings candidate offset stripped c))
include hstrategy hrestates

theorem answer_map (fuzzy : Bool) (candidate : Text)
    : m'.answer fuzzy candidate = (m.answer fuzzy candidate).map change := by
  have hsegment : ∀ (s : Segment) (t : Text) (offset : Nat),
      s.answer fuzzy m'.settings t offset = (s.answer fuzzy m.settings t offset).map change := by
    intro s t offset
    exact Segment.answer_map hmerge (hrestates t offset) fuzzy s
  have hlaid : m'.answerAt fuzzy = fun l => (m.answerAt fuzzy l).map change := by
    funext l
    exact hsegment l.1 l.2.text l.2.start
  unfold answer
  rw [hstrategy, hlaid]
  split
  . exact hsegment _ candidate 0
  . dsimp only
    split
    . rfl
    . rw [mapM_map_right, Option.map_bind, Option.bind_map]
      congr 1
      funext ms
      exact Match.mergeAll_map hmerge ms

include hallow

theorem outcome_map (candidate : Option Text)
    : m'.outcome candidate = (m.outcome candidate).map change := by
  have hinvalid : m'.isInvalid = m.isInvalid := by
    unfold isInvalid segments
    rw [hstrategy]
  unfold outcome
  cases candidate with
  | none => rfl
  | some t =>
    dsimp only
    rw [hinvalid, hallow, answer_map hmerge hstrategy hrestates, answer_map hmerge hstrategy hrestates]
    split
    . rfl
    . rw [Option.map_or]
      split
      . rfl
      . rfl

end Matcher

end

end IdentSearch
