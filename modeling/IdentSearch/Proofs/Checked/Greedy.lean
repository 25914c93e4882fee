import IdentSearch.Proofs.Alignment.Greedy
import IdentSearch.Proofs.Checked.Access

/-!
The alignment of a chunk with capitals, step by step: both lists of humps are walked through by number, and
what is left of a candidate hump is a span that shrinks by what was taken of it.
-/

namespace IdentSearch.Checked

structure Placing where
  folding : Folding
  ignoreCase : Bool
  candidate : Text
  humps : Spans
  pattern : Text
  patternHumps : Spans

structure Taken where
  texts : List Text
  spans : Spans
  next : Nat

namespace Placing

def mayFollow (p : Placing) (gotOne : Bool) (j : Nat) : Except Fault Bool := do
  if !gotOne then return true
  let previous ← nth p.patternHumps (j - 1)
  let hump ← nth p.patternHumps j
  if !Text.isUpper (← nth p.pattern previous.start) then return false
  return Text.isUpper (← nth p.pattern hump.start)

def absorb (p : Placing) (rest : Span) (gotOne : Bool) (j : Nat) : Except Fault Taken := do
  if _h : j < p.patternHumps.length then
    let hump ← nth p.patternHumps j
    if (← p.mayFollow gotOne j) && p.folding.partStartsWith p.ignoreCase p.candidate rest p.pattern hump then
      let matched ← span rest.start hump.length
      let rest ← span (rest.start + hump.length) (rest.length - hump.length)
      let taken ← p.absorb rest true (j + 1)
      return ⟨hump.textOf p.pattern :: taken.texts, matched :: taken.spans, taken.next⟩
    return ⟨[], [], j⟩
  return ⟨[], [], j⟩
termination_by p.patternHumps.length - j

def place (p : Placing) (i j : Nat) : Except Fault (Option (List Placement × Spans)) := do
  if j = p.patternHumps.length then return some ([], [])
  if _h : i < p.humps.length then
    let hump ← nth p.humps i
    let taken ← p.absorb hump false j
    let placed ← p.place (i + 1) taken.next
    return placed.map fun (ps, spans) =>
      (⟨.ofSpan p.candidate hump, taken.texts⟩ :: ps, taken.spans ++ spans)
  return none
termination_by p.humps.length - i

def align (p : Placing) (offset : Nat) : Except Fault (Option Alignment) := do
  if p.patternHumps.isEmpty then return none
  match ← p.place 0 0 with
  | none => return none
  | some (ps, spans) =>
    let a := Greedy.summarize p.humps.length ps
    return some ⟨a.fromStart, a.contiguous, a.toEnd, ← shift offset spans⟩

/-! ### No fault -/

def texts (p : Placing) : List Text := p.patternHumps.map (·.textOf p.pattern)

structure Fits (p : Placing) : Prop where
  positive : ∀ s ∈ p.patternHumps, 0 < s.length
  inside : ∀ s ∈ p.patternHumps, s.stop ≤ p.pattern.length

def parts (start : Nat) : List Text → Spans
  | [] => []
  | t :: ts => ⟨start, t.length⟩ :: parts (start + t.length) ts

theorem covers_parts {start i : Nat} {ts : List Text}
    : (parts start ts).Covers i ↔ (⟨start, ts.flatten.length⟩ : Span).Covers i := by
  induction ts generalizing start with
  | nil =>
    simp only [parts, Spans.not_covers_nil, Span.covers_iff, List.flatten_nil, List.length_nil,
      false_iff]
    omega
  | cons t ts ih =>
    rw [parts, Spans.covers_cons, ih]
    simp only [Span.covers_iff, List.flatten_cons, List.length_append]
    omega

variable {p : Placing} {rest s : Span} {i j : Nat}

theorem length_texts (p : Placing) : p.texts.length = p.patternHumps.length := List.length_map ..

theorem Fits.startsUpper_eq (hfits : p.Fits) (hs : s ∈ p.patternHumps)
    : ∃ c, nth p.pattern s.start = .ok c ∧ Greedy.startsUpper (s.textOf p.pattern) = Text.isUpper c := by
  have hpos := hfits.positive s hs
  have hinside := hfits.inside s hs
  simp only [Span.stop] at hinside
  have hlt : s.start < p.pattern.length := by omega
  refine ⟨p.pattern[s.start], nth_eq_ok rfl (List.getElem?_eq_getElem hlt), ?_⟩
  rw [Greedy.startsUpper, Span.textOf, Text.slice, List.head?_take, if_neg (by omega), List.head?_drop,
    List.getElem?_eq_getElem hlt, Option.any_some]

def previous (p : Placing) (gotOne : Bool) (j : Nat) : Option Text :=
  if gotOne then p.texts[j - 1]? else none

theorem Fits.mayFollow_eq_ok (hfits : p.Fits) {gotOne : Bool} (hgot : gotOne = true → 0 < j)
    (hs : p.patternHumps[j]? = some s)
    : p.mayFollow gotOne j
        =
      .ok ((p.previous gotOne j).all fun q =>
        Greedy.startsUpper q && Greedy.startsUpper (s.textOf p.pattern)) := by
  cases gotOne with
  | false => rfl
  | true =>
    have hpos := hgot rfl
    have hlt : j - 1 < p.patternHumps.length := by
      have := (List.getElem?_eq_some_iff.mp hs).1
      omega
    have hq := List.getElem?_eq_getElem hlt
    rcases hfits.startsUpper_eq (List.getElem_mem hlt) with ⟨c, hc, hcupper⟩
    rcases hfits.startsUpper_eq (List.mem_of_getElem? hs) with ⟨d, hd, hdupper⟩
    unfold mayFollow previous texts
    rw [nth_eq_ok (by omega) hq, nth_eq_ok rfl hs, if_pos rfl, List.getElem?_map, hq]
    simp only [ok_bind, Bool.not_true, Bool.false_eq_true, if_false, Option.map_some, Option.all_some]
    rw [hc, hd, hcupper, hdupper]
    simp only [ok_bind]
    cases Text.isUpper c with
    | false => rfl
    | true => rfl

theorem Fits.length_textOf (hfits : p.Fits) (hs : s ∈ p.patternHumps)
    : (s.textOf p.pattern).length = s.length := by
  have hinside := hfits.inside s hs
  rw [Span.textOf, Text.length_slice]
  simp only [Span.stop] at hinside
  omega

theorem Fits.partStartsWith_eq (hfits : p.Fits) (hs : s ∈ p.patternHumps)
    : p.folding.partStartsWith p.ignoreCase p.candidate rest p.pattern s
        =
      p.folding.startsWith p.ignoreCase (rest.textOf p.candidate) (s.textOf p.pattern) := by
  have hrest : rest.textOf p.candidate = (p.candidate.drop rest.start).take rest.length := rfl
  rw [Bool.eq_iff_iff, Folding.partStartsWith_iff, Folding.startsWith_iff, List.prefix_iff_eq_take,
    Folding.length_view, hfits.length_textOf hs, ← Folding.view_take, hrest, Text.slice, List.take_take]
  constructor
  . rintro ⟨hle, heq⟩
    rw [Nat.min_eq_left hle]
    exact heq.symm
  . intro heq
    have hle : s.length ≤ rest.length := by
      have hlen := congrArg List.length heq
      rw [Folding.length_view, Folding.length_view, hfits.length_textOf hs, List.length_take] at hlen
      omega
    rw [Nat.min_eq_left hle] at heq
    exact ⟨hle, heq.symm⟩

def left (rest s : Span) : Span := ⟨rest.start + s.length, rest.length - s.length⟩

theorem Fits.textOf_left (hfits : p.Fits) (hs : s ∈ p.patternHumps)
    : (left rest s).textOf p.candidate
        =
      (rest.textOf p.candidate).drop (s.textOf p.pattern).length := by
  rw [hfits.length_textOf hs, left, Span.textOf, Span.textOf, Text.slice, Text.slice, List.drop_take,
    List.drop_drop]

def takes (p : Placing) (rest : Span) (gotOne : Bool) (j : Nat) : List Text :=
  (Greedy.absorb p.folding p.ignoreCase (rest.textOf p.candidate)
    (p.previous gotOne j) (p.texts.drop j)).1

theorem takes_of_length_le (h : p.patternHumps.length ≤ j) (rest : Span) (gotOne : Bool)
    : p.takes rest gotOne j = [] := by
  rw [takes, List.drop_of_length_le (by rw [length_texts]; exact h)]
  rfl

theorem Fits.takes_of_lt (hfits : p.Fits) (hs : p.patternHumps[j]? = some s) (rest : Span) (gotOne : Bool)
    : p.takes rest gotOne j
        =
      if ((p.previous gotOne j).all fun q =>
            Greedy.startsUpper q && Greedy.startsUpper (s.textOf p.pattern))
          && p.folding.startsWith p.ignoreCase (rest.textOf p.candidate) (s.textOf p.pattern) then
        s.textOf p.pattern :: p.takes (left rest s) true (j + 1)
      else [] := by
  have htext : p.texts[j]? = some (s.textOf p.pattern) := by
    rw [texts, List.getElem?_map, hs]
    rfl
  have hdrop : p.texts.drop j = s.textOf p.pattern :: p.texts.drop (j + 1) := by
    rcases List.getElem?_eq_some_iff.mp htext with ⟨hj, hget⟩
    rw [List.drop_eq_getElem_cons hj, hget]
  have hprevious : p.previous true (j + 1) = some (s.textOf p.pattern) := htext
  rw [takes, takes, hdrop, hprevious, hfits.textOf_left (List.mem_of_getElem? hs), Greedy.absorb]
  split
  . rfl
  . rfl

theorem Fits.absorb_eq_ok (hfits : p.Fits) (rest : Span) (gotOne : Bool) (j : Nat)
    (hgot : gotOne = true → 0 < j)
    : p.absorb rest gotOne j
        =
      .ok ⟨p.takes rest gotOne j, parts rest.start (p.takes rest gotOne j),
        j + (p.takes rest gotOne j).length⟩ := by
  unfold absorb
  split
  . next hj =>
    have hs : p.patternHumps[j]? = some p.patternHumps[j] := List.getElem?_eq_getElem hj
    rw [nth_eq_ok rfl hs, hfits.takes_of_lt hs, hfits.mayFollow_eq_ok hgot hs]
    simp only [ok_bind]
    rw [hfits.partStartsWith_eq (List.getElem_mem hj)]
    split
    . next htakes =>
      have hlength := hfits.length_textOf (List.getElem_mem hj)
      have hle : p.patternHumps[j].length ≤ rest.length := by
        rw [← hfits.partStartsWith_eq (List.getElem_mem hj), Bool.and_eq_true] at htakes
        exact (Folding.partStartsWith_iff.mp htakes.2).1
      have hleft : span (rest.start + p.patternHumps[j].length) (rest.length - p.patternHumps[j].length)
          = .ok (left rest p.patternHumps[j]) := span_eq_ok (by omega) (by omega)
      rw [span_eq_ok rfl rfl, hleft]
      simp only [ok_bind]
      rw [hfits.absorb_eq_ok (left rest p.patternHumps[j]) true (j + 1) fun _ => Nat.succ_pos j]
      simp only [ok_bind, pure_eq_ok, parts, left, hlength, List.length_cons, Nat.add_assoc, Nat.add_comm]
    . rfl
  . next hj =>
    rw [takes_of_length_le (Nat.not_lt.mp hj)]
    rfl
termination_by p.patternHumps.length - j

def partsOf (ps : List Placement) : Spans := ps.flatMap fun q => parts q.hump.start q.taken

theorem covers_partsOf {ps : List Placement}
    : (partsOf ps).Covers i ↔ Spans.Covers (ps.map (·.span)) i := by
  induction ps with
  | nil => rfl
  | cons q qs ih =>
    rw [partsOf, List.flatMap_cons, Spans.covers_append, covers_parts, ← partsOf, ih, List.map_cons,
      Spans.covers_cons]
    rfl

def humpsFrom (p : Placing) (i : Nat) : List Hump := (p.humps.drop i).map (Hump.ofSpan p.candidate)

theorem takes_append (p : Placing) (rest : Span) (gotOne : Bool) (j : Nat)
    : p.takes rest gotOne j
        ++ (Greedy.absorb p.folding p.ignoreCase (rest.textOf p.candidate) (p.previous gotOne j)
          (p.texts.drop j)).2
        =
      p.texts.drop j :=
  Greedy.absorb_append _ _ _

theorem length_takes_le (rest : Span) (gotOne : Bool) (hj : j ≤ p.patternHumps.length)
    : j + (p.takes rest gotOne j).length ≤ p.patternHumps.length := by
  have hlen := congrArg List.length (p.takes_append rest gotOne j)
  rw [List.length_append, List.length_drop, length_texts] at hlen
  omega

theorem place_of_takes {hs : List Hump} (hj : j < p.patternHumps.length) (hump : Span)
    : Greedy.place p.folding p.ignoreCase (Hump.ofSpan p.candidate hump :: hs) (p.texts.drop j)
        =
      (Greedy.place p.folding p.ignoreCase hs
        (p.texts.drop (j + (p.takes hump false j).length))).map
          (⟨Hump.ofSpan p.candidate hump, p.takes hump false j⟩ :: ·) := by
  have hleft : p.texts.drop (j + (p.takes hump false j).length)
      = (Greedy.absorb p.folding p.ignoreCase (hump.textOf p.candidate) none (p.texts.drop j)).2 := by
    rw [← List.drop_drop]
    conv => lhs; rw [← p.takes_append hump false j]
    exact List.drop_left
  rw [hleft]
  cases hdrop : p.texts.drop j with
  | nil =>
    have := List.drop_eq_nil_iff.mp hdrop
    rw [length_texts] at this
    omega
  | cons t ts =>
    rw [Greedy.place, takes, hdrop]
    rfl

theorem Fits.place_eq_ok (hfits : p.Fits) (i j : Nat) (hj : j ≤ p.patternHumps.length)
    : p.place i j
        =
      .ok ((Greedy.place p.folding p.ignoreCase (p.humpsFrom i) (p.texts.drop j)).map
        fun ps => (ps, partsOf ps)) := by
  unfold place
  split
  . next hend =>
    have hnone : p.texts.drop j = [] := List.drop_of_length_le (by rw [length_texts]; omega)
    rw [hnone, Greedy.place]
    rfl
  . next hend =>
    have hlt : j < p.patternHumps.length := by omega
    split
    . next hi =>
      have hhumps : p.humpsFrom i = Hump.ofSpan p.candidate p.humps[i] :: p.humpsFrom (i + 1) := by
        rw [humpsFrom, List.drop_eq_getElem_cons hi]
        rfl
      rw [nth_eq_ok rfl (List.getElem?_eq_getElem hi), hhumps, place_of_takes hlt]
      simp only [ok_bind]
      rw [hfits.absorb_eq_ok p.humps[i] false j Bool.noConfusion]
      simp only [ok_bind]
      rw [hfits.place_eq_ok (i + 1) _ (length_takes_le p.humps[i] false hj)]
      simp only [ok_bind, pure_eq_ok, Option.map_map]
      rfl
    . next hi =>
      have hnone : p.humpsFrom i = [] := by
        rw [humpsFrom, List.drop_of_length_le (Nat.not_lt.mp hi), List.map_nil]
      rw [hnone]
      cases hdrop : p.texts.drop j with
      | nil =>
        have := List.drop_eq_nil_iff.mp hdrop
        rw [length_texts] at this
        omega
      | cons t ts => rfl
termination_by p.humps.length - i

def ofChunk (f : Folding) (ignoreCase : Bool) (candidate : Text) (humps : Spans) (chunk : Chunk) : Placing :=
  ⟨f, ignoreCase, candidate, humps, chunk.text, chunk.humps⟩

theorem ofChunk_fits (f : Folding) (ignoreCase : Bool) (candidate : Text) (humps : Spans) (chunk : Chunk)
    : (ofChunk f ignoreCase candidate humps chunk).Fits := by
  have htiles := Breaking.humps_tiles .characters chunk.text
  constructor
  . intro s hs
    exact htiles.positive hs
  . intro s hs
    exact htiles.stop_le_length hs

theorem shift_summarize (humpCount offset : Nat) (ps : List Placement)
    : (Greedy.summarize humpCount ps).shift offset
        =
      ⟨(Greedy.summarize humpCount ps).fromStart, (Greedy.summarize humpCount ps).contiguous,
        (Greedy.summarize humpCount ps).toEnd,
        Spans.normalize ((partsOf ps).map (·.shift offset))⟩ := by
  unfold Alignment.shift
  congr 1
  apply Spans.normalize_eq_normalize
  intro i
  rw [Spans.covers_map_shift, Spans.covers_map_shift, Greedy.covers_summarize, covers_partsOf]

theorem align_eq_ok (f : Folding) (ignoreCase : Bool) (candidate : Text) (humps : Spans) (chunk : Chunk)
    (offset : Nat)
    : (ofChunk f ignoreCase candidate humps chunk).align offset
        =
      .ok ((Greedy.align f ignoreCase candidate humps chunk).map (·.shift offset)) := by
  have hplace : (ofChunk f ignoreCase candidate humps chunk).place 0 0
      = .ok ((Greedy.place f ignoreCase (humps.map (Hump.ofSpan candidate)) chunk.humpTexts).map
          fun ps => (ps, partsOf ps)) :=
    (ofChunk_fits f ignoreCase candidate humps chunk).place_eq_ok 0 0 (Nat.zero_le _)
  have hempty : (ofChunk f ignoreCase candidate humps chunk).patternHumps = chunk.humps := rfl
  unfold align Greedy.align
  rw [hplace, hempty]
  split
  . rfl
  . cases Greedy.place f ignoreCase (humps.map (Hump.ofSpan candidate)) chunk.humpTexts with
    | none => rfl
    | some ps =>
      simp only [ok_bind, pure_eq_ok, Option.map_some]
      rw [shift_eq_ok, shift_summarize]
      rfl

end Placing
end IdentSearch.Checked
