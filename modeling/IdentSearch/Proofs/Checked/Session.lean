import IdentSearch.Proofs.Checked.Cascade
import IdentSearch.Proofs.Session.Coherence
import IdentSearch.Proofs.Text.Parts

/-!
Matchers in use with all their accesses checked. The matches of several parts are merged as they are found.
A matcher that was not given up answers every candidate, whatever it was asked before: no access goes wrong.
-/

namespace IdentSearch
namespace Checked

/-! ### Several parts -/

def merge (m n : Match) : Except Fault Match := do
  return ⟨m.kind.weaker n.kind, m.punctuationStripped || n.punctuationStripped,
    m.caseSensitive && n.caseSensitive, ← normalize (m.spans ++ n.spans)⟩

def mergeNext (merged : Option Match) (r : Match) : Except Fault Match :=
  match merged with
  | none => return r
  | some m => merge m r

def mergeEach {α : Type} (find : α → Run (Option Match)) : Option Match → List α → Run (Option Match)
  | merged, [] => return merged
  | merged, a :: as => do
    match ← find a with
    | none => return none
    | some r =>
      let merged ← mergeNext merged r
      mergeEach find (some merged) as

def findWith (s : Segment) (find : Bool → Chunk → Run (Option Match)) : Run (Option Match) := do
  orTry (← find false s.total) do mergeEach (find true) none s.words

/-! ### Matchers -/

def pass (m : Matcher) (candidate : Text) (find : Segment → Text → Nat → Run (Option Match))
    : Run (Option Match) :=
  match m.strategy with
  | .simple segment => find segment candidate 0
  | .containers segments separators =>
    let parts := candidate.splitNonempty separators.contains
    if parts.length < segments.length then return none
    else mergeEach (fun (s, p) => find s p.text p.start) none (Matcher.layOut segments parts)

def strictly (m : Matcher) (candidate : Text) : Run (Option Match) :=
  pass m candidate fun s text offset =>
    findWith s fun stripped c => run (Segment.attempt m.settings text offset stripped c)

def fuzzily (m : Matcher) (candidate : Text) : Run (Option Match) :=
  if m.settings.allowFuzzy then
    pass m candidate fun s text offset =>
      findWith s fun stripped c => return (Segment.attempt m.settings text offset stripped c).fuzzily
  else return none

def answer (m : Matcher) (candidate : Option Text) : Run (Option Match) :=
  match candidate with
  | none => return none
  | some c =>
    if m.isInvalid || c.isBlank then return none
    else do orTry (← strictly m c) (fuzzily m c)

def tryMatch (candidate : Option Text) (s : Session)
    : Except Fault (Except Session.Error (Option Match)) × Session :=
  if s.disposed then (.ok (.error s.disposedError), s)
  else
    let (r, cache) := (answer s.matcher candidate).run s.cache
    (r.map .ok, { s with cache := cache })

/-! ### No fault -/

theorem merge_eq_ok (m n : Match) : merge m n = .ok (m.merge n) := by
  unfold merge
  rw [normalize_eq_ok]
  rfl

theorem mergeNext_eq_ok (merged : Option Match) (r : Match)
    : ∃ m, mergeNext merged r = .ok m ∧
        ∀ ms, Match.mergeAll (merged.toList ++ r :: ms) = Match.mergeAll (m :: ms) := by
  cases merged with
  | none =>
    refine ⟨r, rfl, ?_⟩
    intro ms
    rfl
  | some m =>
    refine ⟨m.merge r, merge_eq_ok m r, ?_⟩
    intro ms
    rfl

section
variable {α β : Type}

theorem ofAll_cons_bind (find : α → StateM HumpCache (Option Match)) (a : α) (as : List α)
    (f : Option (List Match) → β)
    : (do return f (← Match.ofAll find (a :: as)))
        =
      (do
        match ← find a with
        | none => return f none
        | some r => return f ((← Match.ofAll find as).map (r :: ·))) := by
  rw [Match.ofAll, bind_assoc]
  congr 1
  funext found
  cases found with
  | none => rfl
  | some r => rfl

-- What was merged so far stands in front of the matches that are still to come.
theorem mergeEach_performs {find : α → Run (Option Match)} {plain : α → StateM HumpCache (Option Match)}
    (as : List α) (hfind : ∀ a ∈ as, Performs (find a) (plain a)) (merged : Option Match)
    : Performs (mergeEach find merged as)
        (do return (← Match.ofAll plain as).bind fun ms => Match.mergeAll (merged.toList ++ ms)) := by
  induction as generalizing merged with
  | nil =>
    cases merged with
    | none => exact performs_pure none
    | some m => exact performs_pure (some m)
  | cons a as ih =>
    rw [ofAll_cons_bind]
    apply (hfind a List.mem_cons_self).bind
    intro found
    cases found with
    | none => exact performs_pure none
    | some r =>
      rcases mergeNext_eq_ok merged r with ⟨m, hm, hmerged⟩
      apply performs_lift_bind hm
      simp only [Option.bind_map, Function.comp_def, hmerged]
      apply ih
      intro b hb
      exact hfind b (List.mem_cons_of_mem a hb)

end

theorem findWith_performs {s : Segment} {find : Bool → Chunk → Run (Option Match)}
    {plain : Bool → Chunk → StateM HumpCache (Option Match)} (hvalid : s.isInvalid = false)
    (hfind : ∀ stripped c, c.text ≠ [] → Performs (find stripped c) (plain stripped c))
    : Performs (findWith s find) (s.findWith plain) := by
  unfold findWith Segment.findWith
  apply (hfind false s.total (Segment.text_ne_nil hvalid)).bind
  intro found
  apply Performs.orTry
  apply mergeEach_performs s.words
  intro c hc
  rcases List.mem_map.mp hc with ⟨p, hp, rfl⟩
  exact hfind true _ (Text.text_ne_nil_of_mem_words hp)

section
variable {m : Matcher} (hvalid : m.isInvalid = false)
include hvalid

theorem pass_performs (candidate : Text) {find : Segment → Text → Nat → Run (Option Match)}
    {plain : Segment → Text → Nat → StateM HumpCache (Option Match)}
    (hfind : ∀ s text offset, s.isInvalid = false → Performs (find s text offset) (plain s text offset))
    : Performs (pass m candidate find) (m.pass candidate plain) := by
  unfold pass Matcher.pass
  have hsegments : ∀ s ∈ m.segments, s.isInvalid = false := by
    intro s hs
    exact Matcher.isInvalid_of_mem_segments hvalid hs
  unfold Matcher.segments at hsegments
  cases hstrategy : m.strategy with
  | simple segment =>
    rw [hstrategy] at hsegments
    exact hfind segment candidate 0 (hsegments segment List.mem_cons_self)
  | containers segments separators =>
    rw [hstrategy] at hsegments
    dsimp only
    split
    . exact performs_pure none
    . apply mergeEach_performs
      intro laid hlaid
      have hmem := (List.of_mem_zip hlaid).1
      exact hfind laid.1 laid.2.text laid.2.start (hsegments laid.1 (List.mem_reverse.mp hmem))

theorem strictly_performs (candidate : Text)
    : Performs (strictly m candidate) (m.strictly (HumpCache.get .words) candidate) := by
  apply pass_performs hvalid
  intro s text offset hsegment
  apply findWith_performs hsegment
  intro stripped c htext
  exact run_performs htext

theorem fuzzily_performs (candidate : Text)
    : Performs (fuzzily m candidate) (pure (m.fuzzily candidate)) := by
  rw [Matcher.fuzzily_eq]
  unfold fuzzily
  split
  . have hanswer : (m.pass candidate fun s text offset => s.findWith fun stripped c =>
        (pure (Segment.attempt m.settings text offset stripped c).fuzzily : StateM HumpCache _))
          = pure (m.answer true candidate) := by
      apply (Evaluation.effectFree (StateM HumpCache)).pass
      intro s text _ offset
      apply Evaluation.findWith
      intro stripped c
      exact Evaluation.pure _ _
    rw [← hanswer]
    apply pass_performs hvalid
    intro s text offset hsegment
    apply findWith_performs hsegment
    intro stripped c _
    exact performs_pure _
  . exact performs_pure none

end

theorem answer_performs (m : Matcher) (candidate : Option Text)
    : Performs (answer m candidate) (m.run (HumpCache.get .words) candidate) := by
  unfold answer Matcher.run
  cases candidate with
  | none => exact performs_pure none
  | some c =>
    dsimp only
    split
    . exact performs_pure none
    . next hvalid =>
      rw [Bool.or_eq_true, not_or, Bool.not_eq_true] at hvalid
      apply (strictly_performs hvalid.1 c).bind
      intro found
      apply Performs.orTry
      exact fuzzily_performs hvalid.1 c

theorem tryMatch_eq_ok {m : Matcher} {s : Session} (h : s.IsOf m) (hopen : s.disposed = false)
    (candidate : Option Text)
    : tryMatch candidate s = (.ok (s.tryMatch candidate).1, (s.tryMatch candidate).2) := by
  have hanswer := (answer_performs s.matcher candidate s.cache h.coherent).1
  rw [Session.tryMatch_of_open hopen]
  unfold tryMatch
  rw [if_neg (Bool.eq_false_iff.mp hopen), hanswer]
  rfl

end Checked

namespace Session

-- A matcher that was not given up answers every candidate, with a match or with none, whatever it was asked before:
-- of all accesses that the answer needs none goes wrong.
theorem tryMatch_total (m : Matcher) (steps : List Step) (candidate : Option Text)
    (hopen : (History.after step steps (start m)).disposed = false)
    : ∃ r s', (History.after step steps (start m)).tryMatch candidate = (.ok r, s') ∧
        Checked.tryMatch candidate (History.after step steps (start m)) = (.ok (.ok r), s') := by
  refine ⟨_, _, tryMatch_of_open hopen candidate, ?_⟩
  rw [Checked.tryMatch_eq_ok (after_isOf m steps) hopen, tryMatch_of_open hopen]

theorem tryMatch_total_cofi
    : let o : Options := { includeSpans := true, allowFuzzy := true }
      let candidate : Text := ['C', 'o', 'd', 'e', 'F', 'i', 'x']
      let m := Matcher.simple ['c', 'o', 'f', 'i', ' '] o
      let s := History.after step [.enter, .tryMatch none, .tryMatch (some candidate)] (start m)
      Matcher.create (some ['c', 'o', 'f', 'i', ' ']) (some o) = .ok m ∧ s.disposed = false ∧
        (Checked.tryMatch (some candidate) s).1
          = .ok (.ok (some ⟨.camelExact, false, false, [⟨0, 2⟩, ⟨4, 2⟩]⟩)) := by
  intro o candidate m s
  have hcreate : Matcher.create (some ['c', 'o', 'f', 'i', ' ']) (some o) = .ok m := rfl
  have hopen : s.disposed = false := by
    decide +kernel
  have hanswer : (s.tryMatch (some candidate)).1
      = .ok (some ⟨.camelExact, false, false, [⟨0, 2⟩, ⟨4, 2⟩]⟩) := by
    decide +kernel
  rcases tryMatch_total m [.enter, .tryMatch none, .tryMatch (some candidate)] (some candidate) hopen
    with ⟨r, s', hplain, hchecked⟩
  refine ⟨hcreate, hopen, ?_⟩
  rw [hplain] at hanswer
  rw [hchecked]
  exact congrArg Except.ok hanswer

end Session
end IdentSearch
