import Mathlib.Data.List.ReduceOption
import IdentSearch.Proofs.Alignment.Spread.Optimality
import IdentSearch.Proofs.Checked.Access
import IdentSearch.Proofs.Text.Folding

/-!
The alignment of a chunk without capitals, by positions: characters of the pattern and of the humps, rows
and humps are all looked up by number. The trace of the best alignment relies on the rows: where they
promise that the pattern goes on, it has to find how, and otherwise it stops with a fault.
-/

namespace IdentSearch.Checked

open Spread (Start Row Offer Shape)

structure Spreading where
  pattern : Text
  slots : List Slot

structure Stride (length position : Nat) where
  size : Nat
  next : Option Nat
  positive : 0 < size
  le_length : position + size ≤ length

namespace Spreading

/--
What a hump makes possible at a position of the pattern with more than `taken` characters. The rows belong
to the rests of the pattern from the next position on.
-/
def offers (p : Spreading) (rows : List Row) (slot : Slot) (position taken : Nat) : Except Fault Offer := do
  if _h : position + taken < p.pattern.length ∧ taken < slot.text.length then
    let c ← nth p.pattern (position + taken)
    let d ← nth slot.text taken
    if c ≠ d then return .nothing
    let row ← nth rows taken
    let longer ← p.offers rows slot position (taken + 1)
    return (row.offer (slot.index + 1 == p.slots.length) slot.index).either longer
  return .nothing
termination_by slot.text.length - taken

def start? (p : Spreading) (rows : List Row) (total position : Nat) (slot : Slot)
    : Except Fault (Option Start) := do
  if !Spread.fits p.pattern.length total (p.pattern.length - position) slot then return none
  let o ← p.offers rows slot position 0
  return if o.any then some ⟨slot.index, o.contiguous, o.toEnd⟩ else none

def byFirst (p : Spreading) : Except Fault (List (Char × Slot)) :=
  p.slots.mapM fun slot => return (← nth slot.text 0, slot)

def rowsFrom (p : Spreading) (byFirst : List (Char × Slot)) (total position : Nat)
    : Except Fault (List Row) := do
  if _h : position < p.pattern.length then
    let rows ← p.rowsFrom byFirst total (position + 1)
    let c ← nth p.pattern position
    let starts ← (byFirst.filter (·.1 == c)).mapM fun (_, slot) => p.start? rows total position slot
    return .starts starts.reduceOption :: rows
  return [.finished]
termination_by p.pattern.length - position

def step (p : Spreading) (rows : List Row) (shape : Shape) (slot : Slot) (position taken : Nat)
    : Except Fault (Stride p.pattern.length position) := do
  if h : position + taken < p.pattern.length ∧ taken < slot.text.length then
    let c ← nth p.pattern (position + taken)
    let d ← nth slot.text taken
    if c ≠ d then throw (.noStep position slot.index)
    let row ← nth rows (position + (taken + 1))
    match row.continuation? shape (slot.index + 1 == p.slots.length) slot.index with
    | some .stop => return ⟨taken + 1, none, Nat.succ_pos taken, h.1⟩
    | some (.next hump) => return ⟨taken + 1, some hump, Nat.succ_pos taken, h.1⟩
    | none => p.step rows shape slot position (taken + 1)
  else throw (.noStep position slot.index)
termination_by slot.text.length - taken

def trace (p : Spreading) (rows : List Row) (shape : Shape) (position hump : Nat) : Except Fault Spans := do
  let slot ← nth p.slots hump
  let stride ← p.step rows shape slot position 0
  let taken ← span slot.start stride.size
  match stride.next with
  | none => return [taken]
  | some next => return taken :: (← p.trace rows shape (position + stride.size) next)
termination_by p.pattern.length - position
decreasing_by
  have := stride.positive
  have := stride.le_length
  omega

def startsOf : Row → List Start
  | .finished => []
  | .starts list => list

def align (p : Spreading) (offset : Nat) : Except Fault (Option Alignment) := do
  if p.pattern.isEmpty || p.slots.isEmpty then return none
  let byFirst ← p.byFirst
  let total := Spread.roomOf p.slots
  if total < p.pattern.length then return none
  let rows ← p.rowsFrom byFirst total 0
  match Start.best (startsOf (← nth rows 0)) with
  | none => return none
  | some s =>
    let spans ← p.trace rows s.shape 0 s.hump
    return some ⟨s.hump == 0, s.contiguous, s.toEnd, ← shift offset spans⟩

/-! ### The rows -/

variable {p : Spreading} {rows : List Row} {slot : Slot} {shape : Shape} {position taken total : Nat}

theorem length_table (slots : List Slot) (length total : Nat) (pattern : Text)
    : (Spread.table slots length total pattern).length = pattern.length + 1 := by
  induction pattern with
  | nil => rfl
  | cons c cs ih => rw [Spread.table, List.length_cons, ih, List.length_cons]

theorem drop_eq_nil_or (h : ¬ (position + taken < p.pattern.length ∧ taken < slot.text.length))
    : p.pattern.drop (position + taken) = [] ∨ slot.text.drop taken = [] := by
  rw [List.drop_eq_nil_iff, List.drop_eq_nil_iff]
  omega

theorem offers_eq_ok (p : Spreading) (slot : Slot) (position taken : Nat)
    (hrows : p.pattern.length ≤ position + rows.length)
    : p.offers rows slot position taken
        =
      .ok (Spread.offers (slot.index + 1 == p.slots.length) slot.index
        (p.pattern.drop (position + taken)) (slot.text.drop taken) (rows.drop taken)) := by
  unfold offers
  split
  . next h =>
    have hrow : taken < rows.length := by omega
    rw [nth_eq_ok (by omega) (List.getElem?_eq_getElem h.1), nth_eq_ok rfl (List.getElem?_eq_getElem h.2),
      nth_eq_ok rfl (List.getElem?_eq_getElem hrow), List.drop_eq_getElem_cons h.1,
      List.drop_eq_getElem_cons h.2, List.drop_eq_getElem_cons hrow, Spread.offers]
    simp only [ok_bind]
    rw [offers_eq_ok p slot position (taken + 1) hrows]
    simp only [ok_bind, pure_eq_ok, ne_eq, Nat.add_assoc]
    rw [ite_not]
    split
    . rfl
    . rfl
  . next h =>
    rcases drop_eq_nil_or h with hnone | hnone
    . rw [hnone]
      rfl
    . rw [hnone]
      cases p.pattern.drop (position + taken) with
      | nil => rfl
      | cons c cs => rfl
termination_by slot.text.length - taken

theorem start?_eq_ok (p : Spreading) (total position : Nat) (slot : Slot)
    (hrows : p.pattern.length ≤ position + rows.length)
    : p.start? rows total position slot
        =
      .ok (Spread.start? p.slots.length p.pattern.length total (p.pattern.drop position) rows slot) := by
  unfold start? Spread.start?
  rw [offers_eq_ok p slot position 0 hrows, List.length_drop, Nat.add_zero, List.drop_zero, List.drop_zero]
  cases Spread.fits p.pattern.length total (p.pattern.length - position) slot with
  | false => rfl
  | true => rfl

theorem start?_eq_none {count length : Nat} {c d : Char} {cs ds : Text} (htext : slot.text = d :: ds)
    (hne : d ≠ c) : Spread.start? count length total (c :: cs) rows slot = none := by
  have hnothing : Spread.offers (slot.index + 1 == count) slot.index (c :: cs) slot.text rows
      = .nothing := by
    rw [htext]
    cases rows with
    | nil => rfl
    | cons row rows =>
      rw [Spread.offers, if_neg hne.symm]
  unfold Spread.start?
  rw [hnothing]
  split
  . rfl
  . rfl

def firstOf (slot : Slot) : Char := slot.text.headD ' '

theorem cons_of_ne_nil (h : slot.text ≠ []) : slot.text = firstOf slot :: slot.text.tail := by
  cases htext : slot.text with
  | nil => exact absurd htext h
  | cons c cs => rw [firstOf, htext, List.headD_cons, List.tail_cons]

theorem byFirst_eq_ok (htexts : ∀ slot ∈ p.slots, slot.text ≠ [])
    : p.byFirst = .ok (p.slots.map fun slot => (firstOf slot, slot)) := by
  apply mapM_eq_ok
  intro slot hslot
  have hfirst : slot.text[0]? = some (firstOf slot) := by
    rw [cons_of_ne_nil (htexts slot hslot)]
    rfl
  have hnth : nth slot.text 0 = .ok (firstOf slot) := nth_eq_ok rfl hfirst
  rw [hnth]
  rfl

theorem filterMap_byFirst {slots : List Slot} (htexts : ∀ slot ∈ slots, slot.text ≠ []) {c : Char}
    {count length : Nat} {cs : Text}
    : (((slots.map fun slot => (firstOf slot, slot)).filter (·.1 == c)).map fun first =>
          Spread.start? count length total (c :: cs) rows first.2).reduceOption
        =
      slots.filterMap (Spread.start? count length total (c :: cs) rows) := by
  induction slots with
  | nil => rfl
  | cons slot slots ih =>
    have hrest := ih fun s hs => htexts s (List.mem_cons_of_mem slot hs)
    rw [List.map_cons, List.filter_cons]
    split
    . rw [List.map_cons, List.filterMap_cons]
      cases Spread.start? count length total (c :: cs) rows slot with
      | none => rw [List.reduceOption_cons_of_none, hrest]
      | some s => rw [List.reduceOption_cons_of_some, hrest]
    . next hne =>
      rw [hrest, List.filterMap_cons, start?_eq_none (cons_of_ne_nil (htexts slot List.mem_cons_self))]
      simpa using hne

theorem rowsFrom_eq_ok (htexts : ∀ slot ∈ p.slots, slot.text ≠ []) (total position : Nat)
    : p.rowsFrom (p.slots.map fun slot => (firstOf slot, slot)) total position
        =
      .ok (Spread.table p.slots p.pattern.length total (p.pattern.drop position)) := by
  unfold rowsFrom
  split
  . next h =>
    have hrows : p.pattern.length ≤ position
        + (Spread.table p.slots p.pattern.length total (p.pattern.drop (position + 1))).length := by
      rw [length_table, List.length_drop]
      omega
    rw [rowsFrom_eq_ok htexts total (position + 1), nth_eq_ok rfl (List.getElem?_eq_getElem h)]
    simp only [ok_bind]
    rw [mapM_eq_ok fun first _ => start?_eq_ok p total position first.2 hrows]
    simp only [ok_bind, pure_eq_ok]
    rw [List.drop_eq_getElem_cons h, filterMap_byFirst htexts, Spread.table]
  . next h =>
    rw [List.drop_of_length_le (Nat.not_lt.mp h)]
    rfl
termination_by p.pattern.length - position

/-! ### The trace -/

def TracesTo (p : Spreading) (rows : List Row) (shape : Shape) (position : Nat) (slot : Slot) (taken : Nat)
    (shares : List (Slot × Nat)) : Prop :=
  Spread.trace p.slots shape (p.pattern.drop (position + taken)) (rows.drop (position + (taken + 1))) slot
    (slot.text.drop taken) taken = some shares

def Leads (p : Spreading) (rows : List Row) (shape : Shape) (position : Nat) (slot : Slot)
    (stride : Stride p.pattern.length position) (shares : List (Slot × Nat)) : Prop :=
  match stride.next with
  | none => shares = [(slot, stride.size)]
  | some hump => ∃ next others, p.slots[hump]? = some next ∧ shares = (slot, stride.size) :: others ∧
      p.TracesTo rows shape (position + stride.size) next 0 others

def GoesOn (p : Spreading) (rows : List Row) (shape : Shape) (position : Nat) (slot : Slot) (taken : Nat)
    (shares : List (Slot × Nat)) (row : Row) : Prop :=
  match row.continuation? shape (slot.index + 1 == p.slots.length) slot.index with
  | none => p.TracesTo rows shape position slot (taken + 1) shares
  | some .stop => shares = [(slot, taken + 1)]
  | some (.next hump) => ∃ next others, p.slots[hump]? = some next ∧ shares = (slot, taken + 1) :: others ∧
      p.TracesTo rows shape (position + (taken + 1)) next 0 others

variable {shares : List (Slot × Nat)}

-- A trace compares a character of the pattern with one of the hump and consults a row.
theorem TracesTo.exists_row (h : p.TracesTo rows shape position slot taken shares)
    : ∃ c row, p.pattern[position + taken]? = some c ∧ slot.text[taken]? = some c ∧
        rows[position + (taken + 1)]? = some row ∧ p.GoesOn rows shape position slot taken shares row := by
  unfold TracesTo Spread.trace at h
  split at h
  . next c cs row later d ds hpattern hrows htext =>
    rcases getElem?_of_drop hpattern with ⟨hc, rfl⟩
    rcases getElem?_of_drop hrows with ⟨hrow, rfl⟩
    rcases getElem?_of_drop htext with ⟨hd, rfl⟩
    split at h
    . next heq =>
      subst heq
      refine ⟨c, row, hc, hd, hrow, ?_⟩
      unfold GoesOn
      split at h
      . next hcontinuation =>
        rw [hcontinuation]
        cases h
        rfl
      . next hump hcontinuation =>
        rw [hcontinuation]
        split at h
        . next later hlater =>
          rcases Option.map_eq_some_iff.mp h with ⟨others, hothers, rfl⟩
          exact ⟨later, others, hlater, rfl, hothers⟩
        . cases h
      . next hcontinuation =>
        rw [hcontinuation]
        exact h
    . cases h
  . cases h

theorem TracesTo.step {taken : Nat} (h : p.TracesTo rows shape position slot taken shares)
    : ∃ stride, p.step rows shape slot position taken = .ok stride ∧
        p.Leads rows shape position slot stride shares := by
  rcases h.exists_row with ⟨c, row, hc, hd, hrow, hgoes⟩
  have hlt : position + taken < p.pattern.length ∧ taken < slot.text.length :=
    ⟨(List.getElem?_eq_some_iff.mp hc).1, (List.getElem?_eq_some_iff.mp hd).1⟩
  unfold Spreading.step
  rw [dif_pos hlt, nth_eq_ok (by omega) hc, nth_eq_ok rfl hd, nth_eq_ok (by omega) hrow]
  simp only [ok_bind, ne_eq, not_true, if_false]
  unfold GoesOn at hgoes
  cases hcontinuation : row.continuation? shape (slot.index + 1 == p.slots.length) slot.index with
  | none =>
    rw [hcontinuation] at hgoes
    exact hgoes.step
  | some continuation =>
    rw [hcontinuation] at hgoes
    cases continuation with
    | stop => exact ⟨_, rfl, hgoes⟩
    | next hump => exact ⟨_, rfl, hgoes⟩
termination_by slot.text.length - taken

theorem TracesTo.trace {position hump : Nat} {slot : Slot} {shares : List (Slot × Nat)}
    (hslot : p.slots[hump]? = some slot) (h : p.TracesTo rows shape position slot 0 shares)
    : p.trace rows shape position hump = .ok (Spread.spansOf shares) := by
  rcases h.step with ⟨stride, hstep, hleads⟩
  unfold Spreading.trace
  rw [nth_eq_ok rfl hslot]
  simp only [ok_bind]
  rw [hstep]
  simp only [ok_bind]
  rw [span_eq_ok rfl rfl]
  simp only [ok_bind]
  unfold Leads at hleads
  split
  . next hend =>
    rw [hend] at hleads
    rw [hleads]
    rfl
  . next hump' hnext =>
    rw [hnext] at hleads
    rcases hleads with ⟨next, others, hnext, rfl, hothers⟩
    rw [TracesTo.trace hnext hothers]
    rfl
termination_by p.pattern.length - position
decreasing_by
  have := stride.positive
  have := stride.le_length
  omega

/-! ### The alignment -/

theorem length_le_of_found (hlined : Spread.Lined p.slots) {s : Start}
    (h : Spread.Found p.slots p.pattern s shares) : p.pattern.length ≤ Spread.roomOf p.slots := by
  have hspells := h.traced.spells
  cases shares with
  | nil => exact absurd rfl hspells.nonempty
  | cons first others =>
    have hroom := Spread.room_of_spells hlined hspells (h.traced.slots_mem first List.mem_cons_self)
    omega

def aligned (offset : Nat) (found : Start × List (Slot × Nat)) : Alignment :=
  ⟨found.1.hump == 0, found.1.contiguous, found.1.toEnd,
    Spans.normalize ((Spread.spansOf found.2).map (·.shift offset))⟩

theorem search_eq_none {slots : List Slot} {pattern : Text} (h : pattern = [] ∨ slots = [])
    : Spread.search slots pattern = none := by
  rcases h with rfl | rfl
  . rfl
  . cases pattern with
    | nil => rfl
    | cons c cs => rfl

theorem align_eq_search (hlined : Spread.Lined p.slots) (htexts : ∀ slot ∈ p.slots, slot.text ≠ [])
    (offset : Nat)
    : p.align offset = .ok ((Spread.search p.slots p.pattern).map (aligned offset)) := by
  unfold align
  split
  . next hempty =>
    rw [Bool.or_eq_true, List.isEmpty_iff, List.isEmpty_iff] at hempty
    rw [search_eq_none hempty]
    rfl
  . next hempty =>
    rw [Bool.or_eq_true, not_or, List.isEmpty_iff, List.isEmpty_iff] at hempty
    rw [byFirst_eq_ok htexts]
    simp only [ok_bind]
    split
    . next hshort =>
      rcases Spread.search_spec hlined p.pattern with ⟨hnone, _⟩ | ⟨s, shares, _, hfound⟩
      . rw [hnone]
        rfl
      . have := length_le_of_found hlined hfound
        omega
    . rcases Spread.table_lists hlined hempty.1 with ⟨list, rows, htable, hlists, hrows⟩
      have hfirst : nth (.starts list :: rows) 0 = .ok (.starts list) := nth_eq_ok rfl rfl
      rw [rowsFrom_eq_ok htexts, List.drop_zero]
      unfold Spread.search
      rw [htable]
      simp only [ok_bind]
      rw [hfirst]
      simp only [ok_bind, startsOf]
      cases hbest : Start.best list with
      | none => rfl
      | some s =>
        rcases hlists.found hlined hrows hbest with ⟨slot, shares, hslot, htrace, _⟩
        have htraces : p.TracesTo (.starts list :: rows) s.shape 0 slot 0 shares := htrace
        dsimp only
        rw [htraces.trace hslot, hslot]
        simp only [ok_bind]
        rw [shift_eq_ok, htrace]
        rfl

def ofChunk (f : Folding) (candidate : Text) (humps : Spans) (chunk : Chunk) : Spreading :=
  ⟨f.fold chunk.text, Slot.ofHumps f candidate humps⟩

theorem align_eq_ok (f : Folding) {candidate : Text} {humps : Spans}
    (htexts : ∀ s ∈ humps, s.textOf candidate ≠ []) (chunk : Chunk) (offset : Nat)
    : (ofChunk f candidate humps chunk).align offset
        =
      .ok ((Spread.align f candidate humps chunk).map (·.shift offset)) := by
  have hlined := Slot.lined_ofHumps f candidate humps
  have hslots : ∀ slot ∈ Slot.ofHumps f candidate humps, slot.text ≠ [] := by
    intro slot hslot
    have htext : slot.text ∈ Spread.textsOf (Slot.ofHumps f candidate humps) :=
      List.mem_map_of_mem hslot
    rw [Slot.textsOf_ofHumps] at htext
    rcases List.mem_map.mp htext with ⟨s, hs, heq⟩
    rw [← heq, f.fold_eq_map]
    intro hnil
    exact htexts s hs (List.map_eq_nil_iff.mp hnil)
  unfold Spread.align
  rw [Option.map_map]
  exact align_eq_search hlined hslots offset

end Spreading
end IdentSearch.Checked
