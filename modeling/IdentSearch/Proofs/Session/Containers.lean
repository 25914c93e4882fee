import IdentSearch.Proofs.Matcher.Containers

/-!
What matchers with containers answer, whatever they were asked before: the matches of the parts by the
rules, merged, or else those by similarity, but no mixture.
-/

namespace IdentSearch

namespace Session

def pass (fuzzy : Bool) (candidate : Text) (s : Session) : Option Match :=
  if fuzzy then s.matcher.fuzzily candidate
  else (s.matcher.strictly (HumpCache.get .words) candidate s.cache).1

def passAlone (fuzzy : Bool) (s : Session) (segment : Segment) (t : Text) : Option Match :=
  if fuzzy then segment.fuzzily s.matcher.settings t 0
  else (segment.run (HumpCache.get .words) s.matcher.settings t 0 s.cache).1

section
variable {m : Matcher} {s : Session}

theorem IsOf.passAlone_eq (h : s.IsOf m) (fuzzy : Bool) : s.passAlone fuzzy = m.findAlone fuzzy := by
  funext segment t
  unfold passAlone Matcher.findAlone
  rw [h.matcher_eq]
  cases fuzzy with
  | true => exact segment.fuzzily_eq_answer m.settings t 0
  | false =>
    have hrun := HumpCache.evaluation.segmentRun m.settings segment 0 (HumpCache.yields_get t)
    exact (hrun s.cache h.coherent).1

theorem IsOf.pass_eq (h : s.IsOf m) {segments : List Segment} {separators : CharSet}
    (hstrategy : m.strategy = .containers segments separators) (fuzzy : Bool) (candidate : Text)
    : s.pass fuzzy candidate = m.answer fuzzy candidate := by
  unfold pass
  rw [h.matcher_eq]
  cases fuzzy with
  | true => exact Matcher.fuzzily_eq_answer hstrategy
  | false =>
    have hrun : HumpCache.Yields (m.strictly (HumpCache.get .words) candidate) (m.answer false candidate) := by
      apply HumpCache.evaluation.strictly
      intro t _
      exact HumpCache.yields_get t
    exact (hrun s.cache h.coherent).1

end

theorem isInvalid_containers {pieces : List Text} (separators : CharSet) (o : Options)
    (hpieces : pieces ≠ []) (hblank : ∀ p ∈ pieces, p.isBlank = false)
    : (Matcher.containers pieces separators o).isInvalid = false := by
  show ((pieces.map _).isEmpty || (pieces.map _).any _) = false
  rw [Bool.or_eq_false_iff]
  constructor
  . simpa using hpieces
  . rw [List.any_map, List.any_eq_false]
    intro p hp
    simp [Segment.isInvalid, Text.isBlank_trim, hblank p hp]

theorem tryMatch_containers {pieces : List Text} {separators : CharSet} {o : Options}
    {steps : List Step} {s : Session}
    (hs : History.after step steps (start (.containers pieces separators o)) = s)
    (hopen : s.disposed = false) (hpieces : pieces ≠ []) (hblank : ∀ p ∈ pieces, p.isBlank = false)
    {candidate : Text} (hcandidate : candidate.isBlank = false) {parts : List Piece}
    (hparts : Text.CutsInto separators.contains candidate parts)
    : (s.tryMatch (some candidate)).1 = .ok
          ((s.pass false candidate).or (if o.allowFuzzy then s.pass true candidate else none)) ∧
        (parts.length < pieces.length → (s.tryMatch (some candidate)).1 = .ok none) ∧
        (pieces.length ≤ parts.length → ∀ fuzzy,
          Matcher.MergesParts separators candidate (pieces.map fun p => ⟨p.trim⟩) parts
            (s.passAlone fuzzy) (s.pass fuzzy candidate)) := by
  have hisOf := after_isOf (.containers pieces separators o) steps
  rw [hs] at hisOf
  have hsplit := hparts.eq_splitNonempty
  have hpass := hisOf.pass_eq rfl
  have hanswer : (s.tryMatch (some candidate)).1 = .ok
      ((s.pass false candidate).or (if o.allowFuzzy then s.pass true candidate else none)) := by
    rw [hisOf.tryMatch_eq hopen, hpass, hpass]
    unfold Matcher.outcome
    simp only [isInvalid_containers separators o hpieces hblank, hcandidate, Bool.or_self]
    rfl
  refine ⟨hanswer, ?_, ?_⟩
  . intro hlt
    have hnone : ∀ fuzzy, s.pass fuzzy candidate = none := by
      intro fuzzy
      rw [hpass]
      apply Matcher.answer_eq_none rfl hsplit
      rw [List.length_map]
      exact hlt
    rw [hanswer, hnone, hnone]
    split
    . rfl
    . rfl
  . intro hle fuzzy
    rw [hisOf.passAlone_eq, hpass]
    apply Matcher.answer_mergesParts rfl hsplit
    . rw [List.length_map]
      exact hle
    . simpa using hpieces
    . intro segment hsegment
      rcases List.mem_map.mp hsegment with ⟨p, hp, rfl⟩
      intro hnil
      have hp' := hblank p hp
      rw [← Text.isBlank_trim, show p.trim = [] from hnil] at hp'
      cases hp'

theorem tryMatch_containers_ax_cs
    : let candidate : Text := ['b', '.', 'A', 'x', '.', '.', 'C', 'o', 'S', 'p']
      let m := Matcher.containers [[' ', 'a', 'x'], ['c', 's']] (.ofList ['.']) { includeSpans := true }
      let s := History.after step [.tryMatch (some candidate), .enter] (start m)
      s.disposed = false ∧
        Matcher.MergesParts (.ofList ['.']) candidate [⟨['a', 'x']⟩, ⟨['c', 's']⟩]
          [⟨0, ['b']⟩, ⟨2, ['A', 'x']⟩, ⟨6, ['C', 'o', 'S', 'p']⟩] (s.passAlone false)
          (some ⟨.camelExact, false, false, [⟨2, 2⟩, ⟨6, 1⟩, ⟨8, 1⟩]⟩) := by
  intro candidate m s
  have hopen : s.disposed = false := by
    decide +kernel
  have hmerges := (@tryMatch_containers [[' ', 'a', 'x'], ['c', 's']] (.ofList ['.'])
    { includeSpans := true } [.tryMatch (some candidate), .enter] s rfl hopen
    (List.cons_ne_nil _ _) (by decide) candidate (by decide) _
    (Text.splitNonempty_cutsInto _ _)).2.2 (by decide) false
  have hpass : s.pass false candidate
      = some ⟨.camelExact, false, false, [⟨2, 2⟩, ⟨6, 1⟩, ⟨8, 1⟩]⟩ := by
    decide +kernel
  rw [hpass] at hmerges
  exact ⟨hopen, hmerges⟩

end Session
end IdentSearch
