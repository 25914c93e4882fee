import IdentSearch.Proofs.Checked.Greedy
import IdentSearch.Proofs.Checked.Spread
import IdentSearch.Proofs.Checked.Run

/-!
The rules for a chunk with all their accesses checked. Where the chunk occurs is a number, below zero if it
does not, and the rules look at the characters around it only once they know that it does.
-/

namespace IdentSearch.Checked

def indexOf (a : Attempt) (ignoreCase : Bool) : Int :=
  match a.index ignoreCase with
  | some n => n
  | none => -1

def found (a : Attempt) (kind : Kind) (caseSensitive : Bool) (start length : Int) : Except Fault Match := do
  if a.settings.includeSpans then return ⟨kind, a.stripped, caseSensitive, [← span start length]⟩
  return ⟨kind, a.stripped, caseSensitive, []⟩

def atBeginning (a : Attempt) (i : Int) : Except Fault (Option Match) := do
  if i ≠ 0 then return none
  if a.chunk.text.length = a.candidate.length then
    return some (← found a .exact (a.candidate == a.chunk.text) a.offset a.candidate.length)
  return some (← found a .beginning (a.settings.folding.startsWith false a.candidate a.chunk.text)
    a.offset a.chunk.text.length)

def substringAt (a : Attempt) (i : Int) : Except Fault Match := do
  let part ← span i a.chunk.text.length
  found a .substring (a.partStarts false part) (a.offset + i) a.chunk.text.length

def anywhere (a : Attempt) (i : Int) : Except Fault (Option Match) := do
  if 0 < i && a.settings.allowSubstring then return some (← substringAt a i)
  return none

def atPunctuation (a : Attempt) (i : Int) : Except Fault (Option Match) := do
  if Text.isPunctuation (← nth a.candidate (i - 1)) then return some (← substringAt a i)
  if Text.isPunctuation (← nth a.chunk.text 0) then return some (← substringAt a i)
  return none

def atHump (a : Attempt) (humps : Spans) : Except Fault (Option Match) := do
  match humps.find? (a.partStarts true) with
  | some s =>
    return some (← found a .substring (a.partStarts false s) (a.offset + s.start) a.chunk.text.length)
  | none => return none

def literally (a : Attempt) (j : Int) : Except Fault (Option Match) := do
  if j ≤ 0 then return none
  return some (← found a .substring true (a.offset + j) a.chunk.text.length)

def inside (a : Attempt) (i : Int) : Run (Option Match) := do
  if a.chunk.isLowercase then
    if i ≤ 0 then return none
    orTry (← atPunctuation a i) do atHump a (← get a.candidate)
  else literally a (indexOf a false)

def aligned (a : Attempt) (caseSensitive : Bool) (alignment : Alignment) : Match :=
  a.found alignment.kind caseSensitive alignment.spans

def onHumps (a : Attempt) (humps : Spans) : Except Fault (Option Match) := do
  let f := a.settings.folding
  if a.chunk.isLowercase then
    return (← (Spreading.ofChunk f a.candidate humps a.chunk).align a.offset).map (aligned a false)
  let patternHumps ← Checked.humps .characters a.chunk.text
  let placing (ignoreCase : Bool) : Placing :=
    ⟨f, ignoreCase, a.candidate, humps, a.chunk.text, patternHumps⟩
  match ← (placing false).align a.offset with
  | some alignment => return some (aligned a true alignment)
  | none => return (← (placing true).align a.offset).map (aligned a false)

def onCapital (a : Attempt) (i : Int) : Except Fault (Option Match) := do
  if a.chunk.isLowercase && decide (a.chunk.text.length < a.candidate.length) && i != -1 then
    if Text.isUpper (← nth a.candidate i) then
      return some (← found a .substring false (a.offset + i) a.chunk.text.length)
  return none

def run (a : Attempt) : Run (Option Match) := do
  let i := indexOf a true
  orTry (← atBeginning a i) do
    orTry (← anywhere a i) do
      orTry (← inside a i) do
        let humps ← get a.candidate
        orTry (← onHumps a humps) do onCapital a i

/-! ### No fault -/

variable {a : Attempt} {ignoreCase : Bool} {n : Nat}

theorem indexOf_of_none (h : a.index ignoreCase = none) : indexOf a ignoreCase = -1 := by
  rw [indexOf, h]

theorem indexOf_of_some (h : a.index ignoreCase = some n) : indexOf a ignoreCase = n := by
  rw [indexOf, h]

theorem found_eq_ok (a : Attempt) (kind : Kind) (caseSensitive : Bool) {start length : Int} {s m : Nat}
    (hs : start = s) (hm : length = m)
    : found a kind caseSensitive start length = .ok (a.found kind caseSensitive [⟨s, m⟩]) := by
  unfold found Attempt.found
  rw [span_eq_ok hs hm]
  split
  . rfl
  . rfl

theorem found_spanAt_eq_ok (a : Attempt) (kind : Kind) (caseSensitive : Bool) (n : Nat)
    : found a kind caseSensitive (a.offset + n) a.chunk.text.length
        =
      .ok (a.found kind caseSensitive [a.spanAt n]) :=
  found_eq_ok a kind caseSensitive (by omega) rfl

theorem substringAt_eq_ok (a : Attempt) (n : Nat) : substringAt a n = .ok (a.substringAt n) := by
  unfold substringAt
  rw [span_eq_ok rfl rfl]
  apply found_spanAt_eq_ok

theorem lt_length_of_index (htext : a.chunk.text ≠ [])
    (h : a.index ignoreCase = some n) : n < a.candidate.length := by
  have hlen := congrArg List.length (Folding.view_slice_of_indexOf_eq_some h)
  have hpos := List.length_pos_iff.mpr htext
  rw [Folding.length_view, Folding.length_view, Text.length_slice] at hlen
  omega

theorem atBeginning_eq_ok (a : Attempt) : atBeginning a (indexOf a true) = .ok a.atBeginning := by
  unfold atBeginning Attempt.atBeginning
  cases hindex : a.index true with
  | none =>
    rw [indexOf_of_none hindex]
    rfl
  | some n =>
    rw [indexOf_of_some hindex]
    cases n with
    | succ n => rfl
    | zero =>
      rw [found_eq_ok a .exact _ rfl rfl, found_eq_ok a .beginning _ rfl rfl, if_neg (by simp),
        if_pos rfl]
      split
      . rfl
      . rfl

theorem exists_atBeginning (h : a.index true = some 0) : ∃ r, a.atBeginning = some r := by
  unfold Attempt.atBeginning
  rw [if_pos h]
  split
  . exact ⟨_, rfl⟩
  . exact ⟨_, rfl⟩

theorem onCapital_eq_ok (htext : a.chunk.text ≠ []) : onCapital a (indexOf a true) = .ok a.onCapital := by
  unfold onCapital Attempt.onCapital
  cases hindex : a.index true with
  | none =>
    rw [indexOf_of_none hindex]
    simp
  | some n =>
    have hlt := lt_length_of_index htext hindex
    have hchar := List.getElem?_eq_getElem hlt
    have hne : ((n : Int) != -1) = true := by simp
    dsimp only
    rw [indexOf_of_some hindex, nth_eq_ok rfl hchar, hchar, hne, Bool.and_true, Option.any_some,
      found_spanAt_eq_ok]
    simp only [ok_bind]
    cases a.chunk.isLowercase && decide (a.chunk.text.length < a.candidate.length) with
    | false => rfl
    | true =>
      cases Text.isUpper a.candidate[n] with
      | false => rfl
      | true => rfl

section
variable (hindex : a.index true ≠ some 0)
include hindex

theorem pos_of_index (h : a.index true = some n) : 1 ≤ n := by
  have : n ≠ 0 := by
    rintro rfl
    exact hindex h
  omega

theorem anywhere_eq_ok : anywhere a (indexOf a true) = .ok a.anywhere := by
  unfold anywhere Attempt.anywhere
  cases hfound : a.index true with
  | none =>
    rw [indexOf_of_none hfound]
    cases a.settings.allowSubstring <;> rfl
  | some n =>
    have hpos := pos_of_index hindex hfound
    rw [indexOf_of_some hfound, substringAt_eq_ok, decide_eq_true (by omega)]
    cases a.settings.allowSubstring <;> rfl

theorem atPunctuation_eq_ok (htext : a.chunk.text ≠ []) (h : a.index true = some n)
    : atPunctuation a n = .ok (a.atPunctuation n) := by
  have hpos := pos_of_index hindex h
  have hlt := lt_length_of_index htext h
  have hprevious : a.candidate[n - 1]? = some a.candidate[n - 1] := List.getElem?_eq_getElem (by omega)
  rcases List.exists_cons_of_ne_nil htext with ⟨c, cs, hcons⟩
  have hfirst : nth a.chunk.text 0 = .ok c := nth_eq_ok rfl (by rw [hcons]; rfl)
  unfold atPunctuation Attempt.atPunctuation
  rw [nth_eq_ok (by omega) hprevious, hprevious, hfirst, hcons, substringAt_eq_ok, Option.any_some,
    List.head?_cons, Option.any_some]
  simp only [ok_bind]
  cases Text.isPunctuation a.candidate[n - 1] with
  | true => rfl
  | false =>
    cases Text.isPunctuation c with
    | true => rfl
    | false => rfl

omit hindex in
theorem atHump_eq_ok (a : Attempt) (humps : Spans) : atHump a humps = .ok (a.atHump humps) := by
  unfold atHump Attempt.atHump
  cases humps.find? (a.partStarts true) with
  | none => rfl
  | some s =>
    dsimp only
    rw [found_spanAt_eq_ok]
    rfl

omit hindex in
theorem literally_eq_ok (a : Attempt) : literally a (indexOf a false) = .ok a.literally := by
  unfold literally Attempt.literally
  cases hfound : a.index false with
  | none =>
    rw [indexOf_of_none hfound]
    rfl
  | some n =>
    rw [indexOf_of_some hfound]
    cases n with
    | zero => rfl
    | succ n =>
      rw [if_neg (by omega), found_spanAt_eq_ok]
      rfl

theorem inside_performs (htext : a.chunk.text ≠ [])
    : Performs (inside a (indexOf a true)) (a.inside (HumpCache.get .words)) := by
  unfold inside Attempt.inside
  split
  . unfold Attempt.insideLowercase
    cases hfound : a.index true with
    | none =>
      rw [indexOf_of_none hfound]
      exact performs_pure none
    | some n =>
      have hpos := pos_of_index hindex hfound
      rw [indexOf_of_some hfound, if_neg (by omega)]
      apply performs_lift_bind (atPunctuation_eq_ok hindex htext hfound)
      apply Performs.orTry
      apply (performs_get a.candidate).bind
      intro humps
      exact performs_lift (atHump_eq_ok a humps)
  . exact performs_lift (literally_eq_ok a)

end

theorem onHumps_eq_ok (a : Attempt)
    : onHumps a (wordHumps a.candidate) = .ok (a.onHumps (wordHumps a.candidate)) := by
  unfold onHumps Attempt.onHumps
  dsimp only
  split
  . have htexts : ∀ s ∈ wordHumps a.candidate, s.textOf a.candidate ≠ [] := by
      intro s hs
      exact (Breaking.humps_tiles .words a.candidate).textOf_ne_nil hs
    rw [Spreading.align_eq_ok _ htexts]
    simp only [ok_bind, pure_eq_ok, Option.map_map]
    rfl
  . have hhumps : humps .characters a.chunk.text = .ok a.chunk.humps := humps_eq_ok .characters a.chunk.text
    have hplacing : ∀ ignoreCase, (⟨a.settings.folding, ignoreCase, a.candidate, wordHumps a.candidate,
        a.chunk.text, a.chunk.humps⟩ : Placing).align a.offset
          = .ok ((Greedy.align a.settings.folding ignoreCase a.candidate (wordHumps a.candidate)
              a.chunk).map (·.shift a.offset)) := by
      intro ignoreCase
      apply Placing.align_eq_ok
    rw [hhumps]
    simp only [ok_bind]
    rw [hplacing, hplacing]
    simp only [ok_bind]
    cases Greedy.align a.settings.folding false a.candidate (wordHumps a.candidate) a.chunk with
    | some alignment => rfl
    | none =>
      dsimp only [Option.map_none]
      rw [pure_eq_ok, Option.map_map]
      rfl

theorem run_performs (htext : a.chunk.text ≠ []) : Performs (run a) (a.run (HumpCache.get .words)) := by
  unfold run Attempt.run
  apply performs_lift_bind (atBeginning_eq_ok a)
  by_cases hindex : a.index true = some 0
  . rcases exists_atBeginning hindex with ⟨r, hr⟩
    rw [hr]
    exact performs_pure (some r)
  . apply Performs.orTry
    apply performs_lift_bind (anywhere_eq_ok hindex)
    apply Performs.orTry
    apply (inside_performs hindex htext).bind
    intro inner
    apply Performs.orTry
    apply (performs_get a.candidate).bind_yields (HumpCache.yields_get a.candidate)
    apply performs_lift_bind (onHumps_eq_ok a)
    apply Performs.orTry
    exact performs_lift (onCapital_eq_ok htext)

end IdentSearch.Checked
