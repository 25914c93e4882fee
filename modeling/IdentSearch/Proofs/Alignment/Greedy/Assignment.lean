import Mathlib.Data.List.Chain
import IdentSearch.Proofs.Alignment.Moving
import IdentSearch.Proofs.Alignment.Greedy

/-!
Where the pattern humps lie: each one on a candidate hump that is not further left than the one before. The
flags and the spans of an alignment tell exactly how they lie.
-/

namespace IdentSearch

namespace Greedy

/-- The pattern humps that lie on candidate hump number `j`, if `places` has the number for each one. -/
def lyingOn (ps : List Text) (places : List Nat) (j : Nat) : List Text :=
  ((ps.zip places).filter fun x => x.2 == j).map (·.1)

structure Assigns (f : Folding) (ignoreCase : Bool) (texts ps : List Text) (places : List Nat) : Prop where
  length_eq : places.length = ps.length
  inOrder : places.Pairwise fun j k => j ≤ k
  inside : ∀ j ∈ places, j < texts.length
  -- The pattern humps on one candidate hump are, one after another, a beginning of it.
  begins : ∀ j text, texts[j]? = some text
    → f.view ignoreCase (lyingOn ps places j).flatten <+: f.view ignoreCase text
  -- Two neighbours share a candidate hump only if both begin with a capital.
  capitals : (ps.zip places).IsChain fun x y =>
    x.2 = y.2 → startsUpper x.1 = true ∧ startsUpper y.1 = true

end Greedy

structure Alignment.Shows (humps : Spans) (ps : List Text) (places : List Nat) (offset : Int)
    (a : Alignment) : Prop where
  spans : ∃ spans, a.spans = Spans.normalize spans ∧
    ∀ span, span ∈ spans ↔ ∃ j ∈ places, ∃ s, humps[j]? = some s ∧
      (⟨s.start, (Greedy.lyingOn ps places j).flatten.length⟩ : Span).IsMoved offset span
  fromStart_iff : a.fromStart = true ↔ places.head? = some 0
  contiguous_iff : a.contiguous = true
    ↔ ∀ first last j, places.head? = some first → places.getLast? = some last
      → first < j → j < last → j ∈ places
  toEnd_iff : a.toEnd = true ↔ ∃ last, places.getLast? = some last ∧ last + 1 = humps.length

namespace Greedy

variable {f : Folding} {ignoreCase : Bool} {placements : List Placement} {i j k : Nat}

/-! ### Pattern humps by place -/

theorem zip_replicate (ts : List Text) (i : Nat)
    : ts.zip (List.replicate ts.length i) = ts.map fun t => (t, i) := by
  induction ts with
  | nil => rfl
  | cons t ts ih => rw [List.length_cons, List.replicate_succ, List.zip_cons_cons, ih, List.map_cons]

theorem lyingOn_append {ps qs : List Text} {js ks : List Nat} (h : ps.length = js.length) (j : Nat)
    : lyingOn (ps ++ qs) (js ++ ks) j = lyingOn ps js j ++ lyingOn qs ks j := by
  rw [lyingOn, List.zip_append h, List.filter_append, List.map_append]
  rfl

theorem lyingOn_replicate (ts : List Text) (i j : Nat)
    : lyingOn ts (List.replicate ts.length i) j = if i = j then ts else [] := by
  rw [lyingOn, zip_replicate, List.filter_map, List.map_map]
  split
  . next heq => simp [Function.comp_def, heq]
  . next hne => simp [Function.comp_def, hne]

theorem lyingOn_of_not_mem {ps : List Text} {places : List Nat} (h : j ∉ places)
    : lyingOn ps places j = [] := by
  rw [lyingOn, List.map_eq_nil_iff, List.filter_eq_nil_iff]
  intro x hx heq
  have hmem := (List.of_mem_zip hx).2
  rw [beq_iff_eq.mp heq] at hmem
  exact h hmem

/-! ### The places of what candidate humps took -/

def placesFrom (i : Nat) : List Placement → List Nat
  | [] => []
  | p :: ps => List.replicate p.taken.length i ++ placesFrom (i + 1) ps

theorem placesFrom_append (i : Nat) (xs ys : List Placement)
    : placesFrom i (xs ++ ys) = placesFrom i xs ++ placesFrom (i + xs.length) ys := by
  induction xs generalizing i with
  | nil => rfl
  | cons x xs ih =>
    rw [List.cons_append, placesFrom, placesFrom, ih, List.append_assoc, List.length_cons, Nat.add_assoc,
      Nat.add_comm 1]

theorem length_placesFrom (i : Nat) (placements : List Placement)
    : (placesFrom i placements).length = (placements.map (·.taken)).flatten.length := by
  induction placements generalizing i with
  | nil => rfl
  | cons p ps ih =>
    rw [placesFrom, List.length_append, List.length_replicate, ih, List.map_cons, List.flatten_cons,
      List.length_append]

theorem mem_placesFrom
    : j ∈ placesFrom i placements
        ↔
      ∃ k p, placements[k]? = some p ∧ p.isEmpty = false ∧ j = i + k := by
  induction placements generalizing i with
  | nil => simp [placesFrom]
  | cons q qs ih =>
    rw [placesFrom, List.mem_append, List.mem_replicate, ih]
    constructor
    . rintro (⟨hne, rfl⟩ | ⟨k, p, hp, hempty, rfl⟩)
      . refine ⟨0, q, rfl, ?_, rfl⟩
        rw [Placement.isEmpty, List.isEmpty_eq_false_iff]
        exact List.ne_nil_of_length_pos (Nat.pos_of_ne_zero hne)
      . exact ⟨k + 1, p, hp, hempty, by omega⟩
    . rintro ⟨k, p, hp, hempty, rfl⟩
      cases k with
      | zero =>
        cases hp
        rw [Placement.isEmpty, List.isEmpty_eq_false_iff] at hempty
        exact .inl ⟨Nat.ne_of_gt (List.length_pos_iff.mpr hempty), rfl⟩
      | succ k => exact .inr ⟨k, p, hp, hempty, by omega⟩

theorem le_of_mem_placesFrom (h : j ∈ placesFrom i placements) : i ≤ j := by
  rcases mem_placesFrom.mp h with ⟨k, _, _, _, rfl⟩
  exact Nat.le_add_right i k

theorem placesFrom_inOrder (i : Nat) (placements : List Placement)
    : (placesFrom i placements).Pairwise fun j k => j ≤ k := by
  induction placements generalizing i with
  | nil => exact List.Pairwise.nil
  | cons p ps ih =>
    rw [placesFrom, List.pairwise_append]
    refine ⟨List.pairwise_replicate_of_refl, ih (i + 1), ?_⟩
    intro j hj k hk
    rw [List.eq_of_mem_replicate hj]
    have := le_of_mem_placesFrom hk
    omega

theorem lyingOn_placesFrom {p : Placement} (h : placements[k]? = some p)
    : lyingOn (placements.map (·.taken)).flatten (placesFrom i placements) (i + k) = p.taken := by
  induction placements generalizing i k with
  | nil => cases h
  | cons q qs ih =>
    rw [List.map_cons, List.flatten_cons, placesFrom, lyingOn_append List.length_replicate.symm,
      lyingOn_replicate]
    cases k with
    | zero =>
      cases h
      rw [if_pos (Nat.add_zero i).symm, lyingOn_of_not_mem, List.append_nil]
      intro hmem
      have := le_of_mem_placesFrom hmem
      omega
    | succ k =>
      rw [if_neg (by omega), List.nil_append, ← ih h (i := i + 1), Nat.add_right_comm]
      rfl

theorem placesFrom_capitals
    (h : ∀ p ∈ placements, p.taken.IsChain fun t u => startsUpper t = true ∧ startsUpper u = true)
    : ((placements.map (·.taken)).flatten.zip (placesFrom i placements)).IsChain fun x y =>
        x.2 = y.2 → startsUpper x.1 = true ∧ startsUpper y.1 = true := by
  induction placements generalizing i with
  | nil => exact List.IsChain.nil
  | cons p ps ih =>
    rw [List.map_cons, List.flatten_cons, placesFrom, List.zip_append List.length_replicate.symm,
      zip_replicate, List.isChain_append]
    refine ⟨?_, ih fun q hq => h q (List.mem_cons_of_mem p hq), ?_⟩
    . rw [List.isChain_map]
      apply (h p List.mem_cons_self).imp
      intro t u hupper _
      exact hupper
    . -- The last hump that `p` took and the next one do not share a candidate hump.
      intro x hx y hy heq
      have hi : x.2 = i := by
        rcases List.mem_map.mp (List.mem_of_getLast? hx) with ⟨t, _, rfl⟩
        rfl
      have hlater := le_of_mem_placesFrom (List.of_mem_zip (List.mem_of_head? hy)).2
      omega

/-! ### What is placed -/

theorem absorb_capitals (rest : Text) (previous : Option Text) (ps : List Text)
    : (previous.toList ++ (absorb f ignoreCase rest previous ps).1).IsChain fun t u =>
        startsUpper t = true ∧ startsUpper u = true := by
  induction ps generalizing rest previous with
  | nil => cases previous <;> simp [absorb]
  | cons p ps ih =>
    unfold absorb
    split
    . next htakes =>
      have hrest := ih (rest.drop p.length) (some p)
      cases previous with
      | none => exact hrest
      | some q =>
        have hupper := (Bool.and_eq_true_iff.mp htakes).1
        rw [Option.all_some, Bool.and_eq_true_iff] at hupper
        exact List.isChain_cons_cons.mpr ⟨hupper, hrest⟩
    . cases previous <;> simp

theorem place_induction {P : List Text → List Placement → Prop} (nil : P [] [])
    (cons : ∀ h p ps others, P (absorb f ignoreCase h.text none (p :: ps)).2 others
      → P (p :: ps) (⟨h, (absorb f ignoreCase h.text none (p :: ps)).1⟩ :: others))
    {hs : List Hump} {ps : List Text} (h : place f ignoreCase hs ps = some placements) : P ps placements := by
  induction hs generalizing ps placements with
  | nil =>
    cases ps with
    | nil =>
      cases h
      exact nil
    | cons p ps => cases h
  | cons hump hs ih =>
    cases ps with
    | nil =>
      cases h
      exact nil
    | cons p ps =>
      unfold place at h
      rcases Option.map_eq_some_iff.mp h with ⟨others, hothers, rfl⟩
      exact cons hump p ps others (ih hothers)

theorem place_capitals {hs : List Hump} {ps : List Text} (h : place f ignoreCase hs ps = some placements)
    : ∀ p ∈ placements, p.taken.IsChain fun t u => startsUpper t = true ∧ startsUpper u = true := by
  apply place_induction (P := fun _ placements => ∀ p ∈ placements, p.taken.IsChain _) _ _ h
  . simp
  . intro hump p ps others ih q hq
    rcases List.mem_cons.mp hq with rfl | hq
    . exact absorb_capitals hump.text none (p :: ps)
    . exact ih q hq

theorem exists_getLast?_of_place {hs : List Hump} {ps : List Text}
    (h : place f ignoreCase hs ps = some placements) (hne : ps ≠ [])
    : ∃ last, placements.getLast? = some last ∧ last.isEmpty = false := by
  suffices hboth : (ps = [] → placements = []) ∧
      (ps ≠ [] → ∃ last, placements.getLast? = some last ∧ last.isEmpty = false) from hboth.2 hne
  apply place_induction (P := fun ps placements => (ps = [] → placements = []) ∧
    (ps ≠ [] → ∃ last, placements.getLast? = some last ∧ last.isEmpty = false)) _ _ h
  . simp
  . intro hump p ps others ih
    refine ⟨fun hnil => absurd hnil (List.cons_ne_nil p ps), ?_⟩
    intro _
    rw [List.getLast?_cons]
    by_cases hleft : (absorb f ignoreCase hump.text none (p :: ps)).2 = []
    . have happend := @absorb_append f ignoreCase hump.text none (p :: ps)
      rw [hleft, List.append_nil] at happend
      rw [ih.1 hleft, happend]
      exact ⟨_, rfl, rfl⟩
    . rcases ih.2 hleft with ⟨last, hlast, hempty⟩
      rw [hlast]
      exact ⟨last, rfl, hempty⟩

/-! ### What the flags tell -/

theorem fromStart_iff
    : (placements.head?.any fun p => !p.isEmpty) = true ↔ (placesFrom 0 placements).head? = some 0 := by
  cases placements with
  | nil => simp [placesFrom]
  | cons p ps =>
    rw [List.head?_cons, Option.any_some, Bool.not_eq_true', placesFrom]
    cases htaken : p.taken with
    | nil =>
      simp only [Placement.isEmpty, htaken, List.isEmpty_nil, Bool.true_eq_false, false_iff]
      intro hhead
      have := le_of_mem_placesFrom (List.mem_of_head? hhead)
      omega
    | cons t ts => simp [Placement.isEmpty, htaken, List.replicate_succ]

theorem getLast?_placesFrom {last : Placement} (hlast : placements.getLast? = some last)
    (hempty : last.isEmpty = false)
    : ∃ j, (placesFrom i placements).getLast? = some j ∧ j + 1 = i + placements.length := by
  rcases List.getLast?_eq_some_iff.mp hlast with ⟨init, rfl⟩
  refine ⟨i + init.length, ?_, ?_⟩
  . rw [Placement.isEmpty, List.isEmpty_eq_false_iff] at hempty
    rw [placesFrom_append, placesFrom, placesFrom, List.append_nil, List.getLast?_append,
      List.getLast?_replicate, if_neg (List.length_pos_iff.mpr hempty).ne']
    rfl
  . rw [List.length_append, List.length_singleton, Nat.add_assoc]

theorem placesFrom_cons_of_isEmpty {p : Placement} {ps : List Placement} (h : p.isEmpty = true)
    : placesFrom i (p :: ps) = placesFrom (i + 1) ps := by
  rw [placesFrom, List.isEmpty_iff.mp h]
  rfl

theorem head?_placesFrom {p : Placement} {ps : List Placement} (h : p.isEmpty = false)
    : (placesFrom i (p :: ps)).head? = some i := by
  rw [Placement.isEmpty, List.isEmpty_eq_false_iff] at h
  rcases List.exists_cons_of_ne_nil h with ⟨t, ts, htaken⟩
  rw [placesFrom, htaken, List.length_cons, List.replicate_succ]
  rfl

theorem forall_not_isEmpty_iff {last : Placement} (hlast : placements.getLast? = some last)
    (hempty : last.isEmpty = false)
    : (∀ p ∈ placements, p.isEmpty = false)
        ↔
      ∀ j, i ≤ j → j + 1 < i + placements.length → j ∈ placesFrom i placements := by
  constructor
  . intro hall j hij hj
    have hlt : j - i < placements.length := by omega
    have hp := List.getElem?_eq_getElem hlt
    exact mem_placesFrom.mpr ⟨j - i, _, hp, hall _ (List.getElem_mem hlt), by omega⟩
  . intro hplaces p hp
    rcases List.mem_iff_getElem?.mp hp with ⟨k, hk⟩
    have hlt := (List.getElem?_eq_some_iff.mp hk).1
    by_cases hfinal : k + 1 = placements.length
    . rw [List.getLast?_eq_getElem?, ← hfinal, Nat.add_sub_cancel, hk] at hlast
      cases hlast
      exact hempty
    . rcases mem_placesFrom.mp (hplaces (i + k) (by omega) (by omega)) with ⟨k', q, hq, hq', heq⟩
      cases Nat.add_left_cancel heq
      rw [hk] at hq
      cases hq
      exact hq'

theorem contiguous_iff {last : Placement} (hlast : placements.getLast? = some last)
    (hempty : last.isEmpty = false)
    : (placements.dropWhile (·.isEmpty)).all (fun p => !p.isEmpty) = true
        ↔
      ∀ first final j, (placesFrom i placements).head? = some first
        → (placesFrom i placements).getLast? = some final → first < j → j < final
        → j ∈ placesFrom i placements := by
  induction placements generalizing i with
  | nil => cases hlast
  | cons p ps ih =>
    cases hp : p.isEmpty with
    | true =>
      rw [List.dropWhile_cons_of_pos hp, placesFrom_cons_of_isEmpty hp]
      apply ih
      cases ps with
      | nil =>
        rw [List.getLast?_singleton, Option.some_inj] at hlast
        rw [hlast, hempty] at hp
        cases hp
      | cons q qs => rwa [List.getLast?_cons_cons] at hlast
    | false =>
      rcases getLast?_placesFrom (i := i) hlast hempty with ⟨final, hfinal, hlength⟩
      rw [List.dropWhile_cons_of_neg (by simp [hp]), head?_placesFrom hp, hfinal]
      simp only [List.all_eq_true, Bool.not_eq_true', forall_not_isEmpty_iff (i := i) hlast hempty,
        Option.some.injEq]
      constructor
      . rintro hplaces _ _ j rfl rfl hij hj
        exact hplaces j (Nat.le_of_lt hij) (by omega)
      . intro hplaces j hij hj
        rcases Nat.eq_or_lt_of_le hij with rfl | hij
        . exact List.mem_of_head? (head?_placesFrom hp)
        . exact hplaces i final j rfl rfl hij (by omega)

theorem toEnd_iff {last : Placement} (hlast : placements.getLast? = some last)
    (hempty : last.isEmpty = false) (humpCount : Nat)
    : (placements.length == humpCount) = true
        ↔
      ∃ final, (placesFrom 0 placements).getLast? = some final ∧ final + 1 = humpCount := by
  rcases getLast?_placesFrom (i := 0) hlast hempty with ⟨final, hfinal, hlength⟩
  rw [hfinal, beq_iff_eq]
  constructor
  . intro hcount
    exact ⟨final, rfl, by omega⟩
  . rintro ⟨_, ⟨rfl⟩, hcount⟩
    omega

/-! ### The alignment -/

theorem mem_spans_summarize (humpCount : Nat) {span : Span}
    : span ∈ (summarize humpCount placements).spans
        ↔
      ∃ j ∈ placesFrom 0 placements, ∃ p, placements[j]? = some p ∧ span = p.span := by
  show span ∈ (placements.filter fun p => !p.isEmpty).map (·.span) ↔ _
  simp only [List.mem_map, List.mem_filter, Bool.not_eq_true', mem_placesFrom, Nat.zero_add]
  constructor
  . rintro ⟨p, ⟨hmem, hp⟩, rfl⟩
    rcases List.mem_iff_getElem?.mp hmem with ⟨k, hk⟩
    exact ⟨k, ⟨k, p, hk, hp, rfl⟩, p, hk, rfl⟩
  . rintro ⟨_, ⟨k, p, hk, hp, rfl⟩, q, hq, rfl⟩
    rw [hk] at hq
    cases hq
    exact ⟨p, ⟨List.mem_of_getElem? hk, hp⟩, rfl⟩

section
variable {candidate : Text} {humps : Spans} {ps : List Text}
  (h : Placed f ignoreCase (humps.map (Hump.ofSpan candidate)) ps placements)
include h

theorem Placed.getElem? {p : Placement} (hp : placements[j]? = some p)
    : ∃ s, humps[j]? = some s ∧ p.hump = Hump.ofSpan candidate s := by
  rcases h.onFirst with ⟨others, hothers⟩
  have hhump : (placements.map (·.hump) ++ others)[j]? = some p.hump := by
    have hlt := (List.getElem?_eq_some_iff.mp hp).1
    rw [List.getElem?_append_left (by simpa using hlt), List.getElem?_map, hp]
    rfl
  rw [hothers, List.getElem?_map, Option.map_eq_some_iff] at hhump
  rcases hhump with ⟨s, hs, heq⟩
  exact ⟨s, hs, heq.symm⟩

theorem Placed.lyingOn_eq {p : Placement} (hp : placements[j]? = some p)
    : lyingOn ps (placesFrom 0 placements) j = p.taken := by
  have hlying := lyingOn_placesFrom (i := 0) hp
  rwa [h.takesAll, Nat.zero_add] at hlying

theorem Placed.assigns
    (hcapitals : ∀ p ∈ placements, p.taken.IsChain fun t u => startsUpper t = true ∧ startsUpper u = true)
    : Assigns f ignoreCase (humps.map (·.textOf candidate)) ps (placesFrom 0 placements) := by
  constructor
  . rw [length_placesFrom, h.takesAll]
  . exact placesFrom_inOrder 0 placements
  . intro j hj
    rcases mem_placesFrom.mp hj with ⟨k, p, hp, _, rfl⟩
    rcases h.getElem? hp with ⟨s, hs, _⟩
    rw [List.length_map, Nat.zero_add]
    exact (List.getElem?_eq_some_iff.mp hs).1
  . intro j text htext
    cases hp : placements[j]? with
    | none =>
      rw [lyingOn_of_not_mem]
      . rw [Folding.view_eq_map]
        exact List.nil_prefix
      . intro hj
        rcases mem_placesFrom.mp hj with ⟨k, p, hk, _, rfl⟩
        rw [Nat.zero_add, hk] at hp
        cases hp
    | some p =>
      rcases h.getElem? hp with ⟨s, hs, hhump⟩
      have hbegins := h.begins p (List.mem_of_getElem? hp)
      rw [List.getElem?_map, hs] at htext
      cases htext
      rw [h.lyingOn_eq hp]
      rw [hhump] at hbegins
      exact hbegins
  . have hchain := placesFrom_capitals (i := 0) hcapitals
    rwa [h.takesAll] at hchain

theorem Placed.mem_moved_iff {offset : Int} {moved : Spans}
    (hmoved : List.Forall₂ (Span.IsMoved offset) (summarize humps.length placements).spans moved) {span : Span}
    : span ∈ moved
        ↔
      ∃ j ∈ placesFrom 0 placements, ∃ s, humps[j]? = some s ∧
        (⟨s.start, (lyingOn ps (placesFrom 0 placements) j).flatten.length⟩ : Span).IsMoved offset span := by
  rw [Span.mem_iff_of_forall₂_isMoved hmoved]
  constructor
  . rintro ⟨u, hu, hspan⟩
    rcases (mem_spans_summarize humps.length).mp hu with ⟨j, hj, p, hp, rfl⟩
    rcases h.getElem? hp with ⟨s, hs, hhump⟩
    refine ⟨j, hj, s, hs, ?_⟩
    rw [h.lyingOn_eq hp]
    rw [Placement.span, hhump] at hspan
    exact hspan
  . rintro ⟨j, hj, s, hs, hspan⟩
    rcases mem_placesFrom.mp hj with ⟨k, p, hp, _, heq⟩
    rw [Nat.zero_add] at heq
    subst heq
    rcases h.getElem? hp with ⟨s', hs', hhump⟩
    rw [hs] at hs'
    cases hs'
    refine ⟨p.span, (mem_spans_summarize humps.length).mpr ⟨j, hj, p, hp, rfl⟩, ?_⟩
    rw [h.lyingOn_eq hp] at hspan
    rw [Placement.span, hhump]
    exact hspan

theorem Placed.shows {last : Placement} (hlast : placements.getLast? = some last)
    (hempty : last.isEmpty = false) {offset : Int} {a : Alignment}
    (hmoved : (summarize humps.length placements).IsMoved offset a)
    : a.Shows humps ps (placesFrom 0 placements) offset := by
  constructor
  . rcases hmoved.spans with ⟨moved, hspans, hnormal⟩
    refine ⟨moved, hnormal, ?_⟩
    intro span
    exact h.mem_moved_iff hspans
  . rw [hmoved.fromStart_eq]
    exact fromStart_iff
  . rw [hmoved.contiguous_eq]
    exact contiguous_iff hlast hempty
  . rw [hmoved.toEnd_eq]
    exact toEnd_iff hlast hempty humps.length

end

theorem align_assigns {candidate : Text} {humps : Spans} {chunk : Chunk} {offset : Int} {a : Alignment}
    (h : (align f ignoreCase candidate humps chunk).mapM (·.move offset) = .ok (some a))
    : ∃ places,
        Assigns f ignoreCase (humps.map (·.textOf candidate)) chunk.humpTexts places ∧
          a.Shows humps chunk.humpTexts places offset := by
  rcases Alignment.mapM_move_eq_some h with ⟨g, halign, hmove⟩
  unfold align at halign
  split at halign
  . cases halign
  . next hchunk =>
    rcases Option.map_eq_some_iff.mp halign with ⟨placements, hplace, rfl⟩
    have hplaced := place_placed hplace
    have hne : chunk.humpTexts ≠ [] := by
      intro hnil
      exact hchunk (List.isEmpty_iff.mpr (List.map_eq_nil_iff.mp hnil))
    rcases exists_getLast?_of_place hplace hne with ⟨last, hlast, hempty⟩
    refine ⟨placesFrom 0 placements, hplaced.assigns (place_capitals hplace), ?_⟩
    exact hplaced.shows hlast hempty (Alignment.isMoved_of_move_eq_ok hmove)

-- `Old` is left out, and `UI` takes two humps of the pattern.
theorem align_assigns_SiUIT
    : let candidate : Text := ['S', 'i', 'm', 'p', 'l', 'e', 'O', 'l', 'd', 'U', 'I', 'T', 'e', 'x', 't']
      let chunk : Chunk := ⟨['S', 'i', 'U', 'I', 'T']⟩
      let a : Alignment := ⟨true, false, true, [⟨3, 2⟩, ⟨12, 3⟩]⟩
      (align .plain false candidate (wordHumps candidate) chunk).mapM (·.move 3) = .ok (some a) ∧
        ∃ places,
          Assigns .plain false ((wordHumps candidate).map (·.textOf candidate)) chunk.humpTexts places ∧
            a.Shows (wordHumps candidate) chunk.humpTexts places 3 := by
  intro candidate chunk a
  have halign : (align .plain false candidate (wordHumps candidate) chunk).mapM (·.move 3) = .ok (some a) := by
    rfl
  exact ⟨halign, align_assigns halign⟩

end Greedy
end IdentSearch
