import IdentSearch.Proofs.Alignment.Spread.Runs
import IdentSearch.Proofs.Cascade.Beginning

/-!
A chunk without capitals is found where words start and nowhere else, unless it may be found anywhere. The rule
for humps looks into single humps and the others at the first occurrence only; what they miss can be spread.
-/

namespace IdentSearch

-- Where a word may start for a reader who goes by humps, punctuation and capitals.
inductive StartsWord (candidate : Text) : Nat → Prop
  | beginning : StartsWord candidate 0
  | hump {s : Span} (hs : s ∈ wordHumps candidate) : StartsWord candidate s.start
  | behindPunctuation {i : Nat} {c : Char} (hc : candidate[i]? = some c)
      (hpunctuation : Text.isPunctuation c = true) : StartsWord candidate (i + 1)
  | capital {i : Nat} {c : Char} (hc : candidate[i]? = some c) (hupper : Text.isUpper c = true)
    : StartsWord candidate i

namespace Attempt

variable {a : Attempt} {r : Match} {position : Nat} {kind : Kind} {caseSensitive : Bool}

def MarksWord (a : Attempt) (s : Span) : Prop :=
  ∃ i, StartsWord a.candidate i ∧ s.start = a.offset + i

theorem found_marksWord {spans : Spans} (h : ∀ s ∈ spans, a.MarksWord s)
    : ∀ s ∈ (a.found kind caseSensitive spans).spans, a.MarksWord s := by
  unfold found
  dsimp only
  split
  . exact h
  . simp

theorem found_spanAt_marksWord (h : StartsWord a.candidate position)
    : ∀ s ∈ (a.found kind caseSensitive [a.spanAt position]).spans, a.MarksWord s := by
  apply found_marksWord
  intro s hs
  rw [List.mem_singleton.mp hs]
  exact ⟨position, h, rfl⟩

/-! ### Nowhere else -/

theorem atBeginning_marksWord (h : a.atBeginning = some r) : ∀ s ∈ r.spans, a.MarksWord s := by
  have hfirst : ∀ length, a.MarksWord ⟨a.offset, length⟩ := fun _ => ⟨0, .beginning, rfl⟩
  unfold atBeginning at h
  split at h
  . split at h
    . cases h
      apply found_marksWord
      simp [hfirst]
    . cases h
      apply found_marksWord
      simp [hfirst]
  . cases h

theorem pos_of_atBeginning_eq_none (h : a.atBeginning = none) (hindex : a.index true = some position)
    : 0 < position := by
  apply Nat.pos_of_ne_zero
  rintro rfl
  unfold atBeginning at h
  rw [if_pos hindex] at h
  split at h
  . cases h
  . cases h

theorem atPunctuation_marksWord (hfirst : a.chunk.text.head?.any Text.isPunctuation = false)
    (hpos : 0 < position) (h : a.atPunctuation position = some r) : ∀ s ∈ r.spans, a.MarksWord s := by
  unfold atPunctuation at h
  rw [hfirst, Bool.or_false] at h
  split at h
  . next hbefore =>
    cases h
    rcases (Option.any_eq_true _ _).mp hbefore with ⟨c, hc, hpunctuation⟩
    apply found_spanAt_marksWord
    have hstart := StartsWord.behindPunctuation hc hpunctuation
    rwa [Nat.sub_add_cancel hpos] at hstart
  . cases h

theorem atHump_marksWord (h : a.atHump (wordHumps a.candidate) = some r)
    : ∀ s ∈ r.spans, a.MarksWord s := by
  rcases Option.map_eq_some_iff.mp h with ⟨s, hfind, rfl⟩
  apply found_spanAt_marksWord
  apply StartsWord.hump
  exact List.mem_of_find?_eq_some hfind

theorem onHumps_marksWord (hlower : a.chunk.isLowercase = true)
    (h : a.onHumps (wordHumps a.candidate) = some r) : ∀ s ∈ r.spans, a.MarksWord s := by
  unfold onHumps at h
  dsimp only at h
  rw [if_pos hlower] at h
  rcases Option.map_eq_some_iff.mp h with ⟨alignment, halign, rfl⟩
  apply found_marksWord
  intro s hs
  rcases Spans.exists_start_of_mem_normalize hs with ⟨u, hu, hstart⟩
  rcases List.mem_map.mp hu with ⟨v, hv, rfl⟩
  rcases Spread.exists_start_of_align halign hv with ⟨hump, hhump, heq⟩
  refine ⟨hump.start, .hump hhump, ?_⟩
  rw [← hstart, Span.shift_start]
  omega

theorem onCapital_marksWord (h : a.onCapital = some r) : ∀ s ∈ r.spans, a.MarksWord s := by
  unfold onCapital at h
  split at h
  . split at h
    . next hcapital =>
      cases h
      rw [Bool.and_eq_true, Option.any_eq_true] at hcapital
      rcases hcapital.2 with ⟨c, hc, hupper⟩
      apply found_spanAt_marksWord
      exact .capital hc hupper
    . cases h
  . cases h

theorem outcome_marksWord (hstrict : a.settings.allowSubstring = false)
    (hlower : a.chunk.isLowercase = true)
    (hfirst : a.chunk.text.head?.any Text.isPunctuation = false) (h : a.outcome = some r)
    : ∀ s ∈ r.spans, a.MarksWord s := by
  rcases Option.or_eq_some_iff.mp h with hrule | ⟨hnot, h⟩
  . exact atBeginning_marksWord hrule
  rcases Option.or_eq_some_iff.mp h with hrule | ⟨_, h⟩
  . simp [anywhere, hstrict] at hrule
  rcases Option.or_eq_some_iff.mp h with hrule | ⟨_, h⟩
  . rw [innerMatch, if_pos hlower] at hrule
    rcases Option.bind_eq_some_iff.mp hrule with ⟨position, hindex, hrules⟩
    rcases Option.or_eq_some_iff.mp hrules with hrule | ⟨_, hrule⟩
    . exact atPunctuation_marksWord hfirst (pos_of_atBeginning_eq_none hnot hindex) hrule
    . exact atHump_marksWord hrule
  rcases Option.or_eq_some_iff.mp h with hrule | ⟨_, hrule⟩
  . exact onHumps_marksWord hlower hrule
  . exact onCapital_marksWord hrule

/-! ### At every hump -/

theorem isSome_outcome_of_holds (htext : a.chunk.text ≠ []) (hlower : a.chunk.isLowercase = true)
    {s : Span} (hs : s ∈ wordHumps a.candidate)
    (h : Spread.Holds a.settings.folding a.candidate (a.settings.folding.fold a.chunk.text) s.start)
    : a.outcome.isSome = true := by
  have hhumps : (a.onHumps (wordHumps a.candidate)).isSome = true := by
    unfold onHumps
    dsimp only
    rw [if_pos hlower, Option.isSome_map]
    exact Spread.isSome_align_of_holds htext hs h
  simp [outcome, Option.isSome_or, hhumps]

/-! ### Both -/

theorem run_marksWords (m : Matcher) (steps : List Session.Step) (candidate : Text) (offset : Nat)
    (stripped : Bool) (chunk : Chunk) (hstrict : m.settings.allowSubstring = false)
    (htext : chunk.text ≠ []) (hlower : chunk.isLowercase = true)
    : let a := Segment.attempt m.settings candidate offset stripped chunk
      let f := m.settings.folding
      let answer :=
        (a.run (HumpCache.get .words) (History.after Session.step steps (Session.start m)).cache).1
      (∀ hump ∈ wordHumps candidate, Spread.Holds f candidate (f.fold chunk.text) hump.start
          → answer.isSome = true) ∧
        (chunk.text.head?.any Text.isPunctuation = false
          → ∀ r, answer = some r → ∀ s ∈ r.spans, a.MarksWord s) := by
  intro a f answer
  have hcoherent := (Session.after_isOf m steps).coherent
  have hanswer : answer = a.outcome := (HumpCache.evaluation.run HumpCache.yields_get a _ hcoherent).1
  rw [hanswer]
  constructor
  . intro hump hhump hholds
    exact isSome_outcome_of_holds htext hlower hhump hholds
  . intro hfirst r hr
    exact outcome_marksWord hstrict hlower hfirst hr

-- The second occurrence of the chunk runs over two humps, and the first one is inside another.
theorem run_marksWords_abc
    : let m : Matcher := .simple ['a', 'b', 'c'] { includeSpans := true }
      let candidate : Text := ['x', 'a', 'b', 'c', 'A', 'b', 'C']
      let a := Segment.attempt m.settings candidate 3 true ⟨['a', 'b', 'c']⟩
      let steps := [Session.Step.wordHumps candidate, .tryMatch (some candidate)]
      let answer :=
        (a.run (HumpCache.get .words) (History.after Session.step steps (Session.start m)).cache).1
      answer.isSome = true ∧ answer = some ⟨.camelContiguous, true, false, [⟨7, 3⟩]⟩ ∧
        a.MarksWord ⟨7, 3⟩ := by
  intro m candidate a steps answer
  have hlower : (⟨['a', 'b', 'c']⟩ : Chunk).isLowercase = true := rfl
  rcases run_marksWords m steps candidate 3 true ⟨['a', 'b', 'c']⟩ rfl (List.cons_ne_nil _ _) hlower
    with ⟨hholds, hmarks⟩
  have hanswer : answer = some ⟨.camelContiguous, true, false, [⟨7, 3⟩]⟩ := by decide +kernel
  have hhump : ⟨4, 2⟩ ∈ wordHumps candidate := by decide
  have hheld : Spread.Holds .plain candidate (Folding.plain.fold ['a', 'b', 'c']) 4 := by
    constructor
    . decide
    . intro j hge hlt
      have hword : ∀ j < 7, candidate[j]?.any Text.isWordChar = true := by decide
      exact (Option.any_eq_true _ _).mp (hword j hlt)
  exact ⟨hholds _ hhump hheld, hanswer, hmarks rfl _ hanswer _ (List.mem_singleton_self _)⟩

end Attempt
end IdentSearch
