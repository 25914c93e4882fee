import Mathlib.Data.List.Forall2
import Mathlib.Data.List.Lex
import IdentSearch.Proofs.Alignment.Spread.Optimality

/-!
Of all ways to spread a chunk that have the strongest kind, the search takes the first one: the humps and the
numbers of their characters, one after another, are the least sequence.
-/

namespace IdentSearch.Spread

def sequence (shares : List Share) : List Nat := shares.flatMap fun s => [s.hump, s.size]

def Covering (humps : Spans) (offset : Int) (shares : List Share) (spans : Spans) : Prop :=
  List.Forall₂ (fun share span => ∃ s, humps[share.hump]? = some s ∧
    (⟨s.start, share.size⟩ : Span).IsMoved offset span) shares spans

-- The alignment shows one way to spread a pattern over humps, and none before it has the same kind.
structure ShowsLeast (texts : List Text) (pattern : Text) (humps : Spans) (offset : Int) (shares : List Share)
    (a : Alignment) : Prop where
  spells : Spells texts pattern shares
  spans : ∃ spans, Covering humps offset shares spans ∧ a.spans = Spans.normalize spans
  fromStart_eq : a.fromStart = fromStart shares
  contiguous_eq : a.contiguous = contiguous shares
  toEnd_eq : a.toEnd = (contiguous shares && toEnd humps.length shares)
  least : ∀ others, Spells texts pattern others → kindOf humps.length others = a.kind
    → sequence shares ≤ sequence others

variable {slots : List Slot} {pattern rest : Text} {shape : Shape} {length h : Nat} {slot : Slot}

/-! ### Sequences -/

@[simp]
theorem sequence_cons (s : Share) (ss : List Share) : sequence (s :: ss) = s.hump :: s.size :: sequence ss := rfl

theorem sequence_nil_le (ss : List Share) : sequence [] ≤ sequence ss := by
  rcases List.lex_nil_or_eq_nil (sequence ss) with hlt | hnil
  . exact le_of_lt hlt
  . rw [hnil]
    exact le_refl _

theorem sequence_le_of_hump_lt {s u : Share} {ss us : List Share} (hlt : s.hump < u.hump)
    : sequence (s :: ss) ≤ sequence (u :: us) :=
  le_of_lt (List.Lex.rel hlt)

theorem sequence_le_of_size_le {s u : Share} {ss us : List Share} (hhump : s.hump = u.hump)
    (hle : s.size ≤ u.size) (htail : s.size = u.size → sequence ss ≤ sequence us)
    : sequence (s :: ss) ≤ sequence (u :: us) := by
  rw [sequence_cons, sequence_cons, hhump]
  apply List.cons_le_cons
  rcases Nat.eq_or_lt_of_le hle with hsize | hlt
  . rw [hsize]
    exact List.cons_le_cons _ (htail hsize)
  . exact le_of_lt (List.Lex.rel hlt)

/-! ### The nearest continuation -/

theorem hump_le_of_find? {list : List Start} {p : Start → Bool} {s u : Start}
    (hsorted : list.Pairwise fun s u => s.hump < u.hump) (hfind : list.find? p = some s) (hu : u ∈ list)
    (hp : p u = true) : s.hump ≤ u.hump := by
  rcases List.find?_eq_some_iff_append.mp hfind with ⟨_, before, behind, rfl, hnot⟩
  rcases List.mem_append.mp hu with hu | hu
  . have hnone := hnot u hu
    rw [hp] at hnone
    cases hnone
  . rcases List.mem_cons.mp hu with rfl | hu
    . exact Nat.le_refl _
    . have hbehind := (List.pairwise_append.mp hsorted).2.1
      exact Nat.le_of_lt (List.rel_of_pairwise_cons hbehind hu)

theorem Row.Describes.next_le {row : Row} {later other : Nat} (hrow : row.Describes slots length rest)
    (hnext : row.continuation? shape (h + 1 == slots.length) h = some (.next later))
    (hreach : Reaches slots length rest other) (hopens : Opens (textsOf slots) rest shape other)
    (hlt : h < other) (hother : shape ≠ .any → other = h + 1) : later ≤ other := by
  cases row with
  | finished =>
    cases hrow
    exact absurd hopens not_opens_nil
  | starts list =>
    rcases hrow with ⟨_, hsorted, hlist⟩
    rw [continuation?_starts, Option.map_eq_some_iff] at hnext
    rcases hnext with ⟨s, hfind, heq⟩
    cases heq
    rcases (hlist shape other).mpr ⟨hreach, hopens⟩ with ⟨u, hu, rfl, hallows⟩
    apply hump_le_of_find? hsorted hfind hu
    rw [Bool.and_eq_true, decide_eq_true_eq]
    exact ⟨⟨hlt, hother⟩, hallows⟩

/-! ### Another way to spread the pattern -/

theorem Spells.tail_cases {texts : List Text} {s : Share} {ss : List Share}
    (hspells : Spells texts pattern (s :: ss)) (hallows : shape.Allows texts.length (s :: ss))
    : (pattern.drop s.size = [] ∧ (shape = .toEnd → s.hump + 1 = texts.length)) ∨
        ∃ u us, ss = u :: us ∧ s.hump < u.hump ∧ (shape ≠ .any → u.hump = s.hump + 1) ∧
          Spells texts (pattern.drop s.size) (u :: us) ∧ shape.Allows texts.length (u :: us) := by
  cases ss with
  | nil => exact .inl ⟨(spells_singleton.mp hspells).drop_eq, hallows⟩
  | cons u us =>
    rcases spells_cons_cons.mp hspells with ⟨rest, hbegins, hlt, hrest⟩
    rw [hbegins.drop_eq]
    exact .inr ⟨u, us, rfl, hlt, hallows.1, hrest, hallows.2⟩

theorem Spells.follows {texts : List Text} {s : Share} {ss : List Share}
    (hspells : Spells texts pattern (s :: ss)) (hallows : shape.Allows texts.length (s :: ss))
    : Follows texts (pattern.drop s.size) shape s.hump := by
  rcases hspells.tail_cases hallows with ⟨hnil, hlast⟩ | ⟨u, us, rfl, hlt, hnext, hrest, hallows⟩
  . exact .inl ⟨hnil, hlast⟩
  . exact .inr ⟨u.hump, hlt, hnext, u, us, rfl, hrest, hallows⟩

-- Whatever follows a share on a hump behind which the trace goes on, it begins there or further right.
theorem Row.Describes.next_cases {row : Row} {later : Nat} {s : Share} {ss : List Share}
    (hrow : row.Describes slots length rest)
    (hlater : ∀ later, s.hump < later → Opens (textsOf slots) rest shape later → Reaches slots length rest later)
    (hnext : row.continuation? shape (s.hump + 1 == slots.length) s.hump = some (.next later))
    (hspells : Spells (textsOf slots) pattern (s :: ss)) (hallows : shape.Allows (textsOf slots).length (s :: ss))
    (hdrop : pattern.drop s.size = rest)
    : ∃ u us, ss = u :: us ∧ later ≤ u.hump ∧ Spells (textsOf slots) rest (u :: us) ∧
        shape.Allows (textsOf slots).length (u :: us) := by
  rcases hspells.tail_cases hallows with ⟨hnil, _⟩ | ⟨u, us, rfl, hlt, hu, hrest, hallows⟩
  . rcases hrow.of_next hnext with ⟨_, _, hopens⟩
    rw [← hdrop, hnil] at hopens
    exact absurd hopens not_opens_nil
  . rw [hdrop] at hrest
    have hopens : Opens (textsOf slots) rest shape u.hump := ⟨u, us, rfl, hrest, hallows⟩
    exact ⟨u, us, rfl, hrow.next_le hnext (hlater u.hump hlt hopens) hopens hlt hu, hrest, hallows⟩

/-! ### The trace -/

theorem trace_cons_eq_some {c d : Char} {cs ds : Text} {row : Row} {rows : List Row} {taken : Nat}
    {shares : List (Slot × Nat)}
    (htrace : trace slots shape (c :: cs) (row :: rows) slot (d :: ds) taken = some shares)
    : (row.continuation? shape (slot.index + 1 == slots.length) slot.index = none ∧
        trace slots shape cs rows slot ds (taken + 1) = some shares) ∨
      (row.continuation? shape (slot.index + 1 == slots.length) slot.index = some .stop ∧
        shares = [(slot, taken + 1)]) ∨
      ∃ later next others,
        row.continuation? shape (slot.index + 1 == slots.length) slot.index = some (.next later) ∧
          slots[later]? = some next ∧ trace slots shape cs rows next next.text 0 = some others ∧
            shares = (slot, taken + 1) :: others := by
  unfold trace at htrace
  split at htrace
  . split at htrace
    . next hcont =>
      cases htrace
      exact .inr (.inl ⟨hcont, rfl⟩)
    . next later hcont =>
      split at htrace
      . next next hnext =>
        rcases Option.map_eq_some_iff.mp htrace with ⟨others, hothers, rfl⟩
        exact .inr (.inr ⟨later, next, others, hcont, hnext, hothers, rfl⟩)
      . cases htrace
    . next hcont => exact .inl ⟨hcont, htrace⟩
  . cases htrace

theorem exists_cons_of_trace {rows : List Row} {text : Text} {taken : Nat} {shares : List (Slot × Nat)}
    (htrace : trace slots shape pattern rows slot text taken = some shares)
    : ∃ size others, shares = (slot, size) :: others := by
  induction pattern generalizing rows text taken with
  | nil => cases htrace
  | cons c cs ih =>
    cases rows with
    | nil => cases htrace
    | cons row rows =>
      cases text with
      | nil => cases htrace
      | cons d ds =>
        rcases trace_cons_eq_some htrace with ⟨_, hgo⟩ | ⟨_, rfl⟩ | ⟨_, _, others, _, _, _, rfl⟩
        . exact ih hgo
        . exact ⟨taken + 1, [], rfl⟩
        . exact ⟨taken + 1, others, rfl⟩

-- As for what is traced, the induction is on the characters that are left of the pattern.
theorem trace_least (taken : Nat) (hlined : Lined slots) {rows : List Row}
    (hrows : ∀ k, k < pattern.length
      → ∃ row, rows[k]? = some row ∧ row.Describes slots length (pattern.drop (k + 1)))
    (hslot : slots[h]? = some slot) (hreach : length ≤ slot.before + (taken + pattern.length))
    {shares : List (Slot × Nat)}
    (htrace : trace slots shape pattern rows slot (slot.text.drop taken) taken = some shares)
    {s : Share} {ss : List Share} (hspells : Spells (textsOf slots) (slot.text.take taken ++ pattern) (s :: ss))
    (hallows : shape.Allows (textsOf slots).length (s :: ss)) (hhump : s.hump = h) (hlt : taken < s.size)
    : sequence (shares.map shareOf) ≤ sequence (s :: ss) := by
  have htext := getElem?_textsOf.mpr ⟨slot, hslot, rfl⟩
  have hbegins := hspells.begins
  induction pattern generalizing rows h slot taken shares s ss with
  | nil =>
    have hlen := hbegins.length_eq
    simp only [List.append_nil, List.length_take] at hlen
    omega
  | cons c cs ih =>
    subst hhump
    have hle : s.size ≤ slot.text.length := ((begins_iff htext).mp hbegins).2.1
    have hdrop : slot.text.drop taken = c :: slot.text.drop (taken + 1) := next_char htext hlt hle hbegins
    have hrest : (slot.text.take taken ++ c :: cs).drop (taken + 1) = cs :=
      (begins_next (h := s.hump) htext hdrop).drop_eq
    have hindex := hlined.index_eq hslot
    rcases hrows 0 (Nat.succ_pos _) with ⟨row, hrow, hdescribes⟩
    cases rows with
    | nil => cases hrow
    | cons row' rows =>
      cases hrow
      rw [List.length_cons] at hreach
      have hlater : ∀ later, s.hump < later → Opens (textsOf slots) cs shape later
          → Reaches slots length cs later := by
        apply reaches_behind (taken + 1) hlined hslot
        . omega
        . omega
      have hrows' : ∀ k, k < cs.length
          → ∃ row, rows[k]? = some row ∧ row.Describes slots length (cs.drop (k + 1)) := by
        intro k hk
        exact hrows (k + 1) (Nat.succ_lt_succ hk)
      rw [hdrop] at htrace
      have hcases := trace_cons_eq_some htrace
      rw [hindex] at hcases
      rcases hcases with ⟨hnone, hgo⟩ | ⟨_, rfl⟩ | ⟨later, next, others, hnext, hslot', hgo, rfl⟩
      . have hne : s.size ≠ taken + 1 := by
          intro hsize
          have hfollows := hspells.follows hallows
          rw [hsize, hrest] at hfollows
          exact hdescribes.not_follows hlater (by rw [hnone]; rfl) hfollows
        rw [← take_succ_append hdrop] at hspells
        exact ih (taken + 1) hrows' hslot (by omega) hgo hspells hallows rfl (by omega) htext hspells.begins
      . rw [List.map_singleton]
        refine sequence_le_of_size_le hindex hlt ?_
        intro _
        exact sequence_nil_le ss
      . rw [List.map_cons]
        refine sequence_le_of_size_le hindex hlt ?_
        intro hsize
        have hrest' : (slot.text.take taken ++ c :: cs).drop s.size = cs := by
          rw [← show taken + 1 = s.size from hsize]
          exact hrest
        rcases hdescribes.next_cases hlater hnext hspells hallows hrest' with
          ⟨u, us, rfl, hnearest, hspells', hallows'⟩
        rcases Nat.eq_or_lt_of_le hnearest with heq | hlt'
        . rcases hdescribes.of_next hnext with ⟨hgt, _, hopens⟩
          rcases hlater later hgt hopens with ⟨slot', hslot'', hreach'⟩
          rw [hslot'] at hslot''
          cases hslot''
          rw [← List.drop_zero (l := next.text)] at hgo
          exact ih 0 hrows' hslot' (by omega) hgo hspells' hallows' heq.symm
            (hspells'.positive u List.mem_cons_self) (getElem?_textsOf.mpr ⟨next, hslot', rfl⟩) hspells'.begins
        . rcases exists_cons_of_trace hgo with ⟨size', others', rfl⟩
          apply sequence_le_of_hump_lt
          rw [shareOf, hlined.index_eq hslot']
          exact hlt'

/-! ### The whole search -/

theorem best_foldl_first {b : Start} {ss : List Start} (hsorted : (b :: ss).Pairwise fun s u => s.hump < u.hump)
    : ∀ u ∈ b :: ss,
        (ss.foldl (fun b t => if b.kind.rank < t.kind.rank then t else b) b).kind.rank ≤ u.kind.rank
          → (ss.foldl (fun b t => if b.kind.rank < t.kind.rank then t else b) b).hump ≤ u.hump := by
  induction ss generalizing b with
  | nil => simp
  | cons t ts ih =>
    rw [List.foldl_cons]
    intro u hu hle
    split at hle
    . next hlt =>
      rw [if_pos hlt]
      rcases List.mem_cons.mp hu with rfl | hu
      . have hmax := (best_foldl t ts).2 t List.mem_cons_self
        omega
      . exact ih hsorted.tail u hu hle
    . next hge =>
      rw [if_neg hge]
      have hfirst := ih (hsorted.sublist ((List.sublist_cons_self t ts).cons_cons b))
      rcases List.mem_cons.mp hu with rfl | hu
      . exact hfirst u List.mem_cons_self hle
      . rcases List.mem_cons.mp hu with rfl | hu
        . have hb := hfirst b List.mem_cons_self (by omega)
          have hbu := List.rel_of_pairwise_cons hsorted List.mem_cons_self
          omega
        . exact hfirst u (List.mem_cons_of_mem b hu) hle

theorem best_first {list : List Start} {s u : Start} (hsorted : list.Pairwise fun s u => s.hump < u.hump)
    (hbest : Start.best list = some s) (hu : u ∈ list) (hle : s.kind.rank ≤ u.kind.rank)
    : s.hump ≤ u.hump := by
  cases list with
  | nil => cases hu
  | cons b ss =>
    cases hbest
    exact best_foldl_first hsorted u hu hle

theorem ofShape_inj {fromStart fromStart' contiguous contiguous' toEnd toEnd' : Bool}
    (h : Kind.ofShape fromStart contiguous toEnd = Kind.ofShape fromStart' contiguous' toEnd')
    : contiguous = contiguous' ∧ (contiguous = true → toEnd = toEnd') := by
  revert h
  revert fromStart fromStart' contiguous contiguous' toEnd toEnd'
  decide

theorem Start.Reports.allows_of_kind {texts : List Text} {s : Start} (hreports : s.Reports texts pattern)
    {u : Share} {us : List Share} (hkind : kindOf texts.length (u :: us) = s.kind)
    : s.shape.Allows texts.length (u :: us) := by
  rcases ofShape_inj hkind with ⟨hcontiguous, htoEnd⟩
  unfold Start.shape
  split
  . next he =>
    have hc := (hreports .contiguous).mpr ((hreports .toEnd).mp he).contiguous
    have hc := hcontiguous.trans hc
    exact allows_toEnd_iff.mpr ⟨hc, (htoEnd hc).trans he⟩
  . split
    . next hc => exact allows_contiguous_iff.mpr (hcontiguous.trans hc)
    . exact allows_any _ _

theorem search_least (hlined : Lined slots) {s : Start} {shares : List (Slot × Nat)}
    (hsearch : search slots pattern = some (s, shares)) {others : List Share}
    (hspells : Spells (textsOf slots) pattern others) (hkind : kindOf slots.length others = s.kind)
    : sequence (shares.map shareOf) ≤ sequence others := by
  rcases spells_cases hspells with ⟨u, us, rfl⟩
  have hne : pattern ≠ [] := by
    rintro rfl
    exact not_opens_nil ⟨u, us, rfl, hspells, allows_any _ _⟩
  rcases table_lists hlined hne with ⟨list, rows, htable, hlists, hrows⟩
  unfold search at hsearch
  rw [htable] at hsearch
  dsimp only at hsearch
  cases hbest : Start.best list with
  | none =>
    rw [hbest] at hsearch
    cases hsearch
  | some s' =>
    rw [hbest] at hsearch
    rcases best_eq_some hbest with ⟨hs, hmax⟩
    have hreports := hlists.reports hs
    rcases ((hreports _).mp s'.allows_shape).getElem? with ⟨slot, hslot⟩
    dsimp only at hsearch
    rw [hslot] at hsearch
    rcases Option.map_eq_some_iff.mp hsearch with ⟨traced, htrace, heq⟩
    cases heq
    rw [← length_textsOf] at hkind
    rcases hlists.exists_start hspells with ⟨t, ht, hhump⟩
    have hrank := (hlists.reports ht).rank_kindOf_le hspells hhump.symm
    rw [hkind] at hrank
    have hfirst := best_first hlists.sorted hbest ht hrank
    rw [hhump] at hfirst
    rcases Nat.eq_or_lt_of_le hfirst with hsame | hlt
    . rw [← List.drop_zero (l := slot.text)] at htrace
      apply trace_least 0 hlined hrows hslot (by omega) htrace hspells
      . exact hreports.allows_of_kind hkind
      . exact hsame.symm
      . exact hspells.positive u List.mem_cons_self
    . rcases exists_cons_of_trace htrace with ⟨size, rest, rfl⟩
      apply sequence_le_of_hump_lt
      rw [shareOf, hlined.index_eq hslot]
      exact hlt

/-! ### The alignment -/

theorem Found.toEnd_eq_and {s : Start} {shares : List (Slot × Nat)} (hfound : Found slots pattern s shares)
    : s.toEnd = (contiguous (shares.map shareOf) && toEnd slots.length (shares.map shareOf)) := by
  rcases spells_cases hfound.traced.spells with ⟨u, us, hshares⟩
  have hallows := hfound.traced.allows
  have htoEnd := hfound.toEnd_eq
  rw [← hfound.contiguous_eq]
  cases he : s.toEnd with
  | true =>
    rw [Start.shape, if_pos he, hshares] at hallows
    rcases allows_toEnd_iff.mp hallows with ⟨hc, he'⟩
    rw [hfound.contiguous_eq, hshares, hc, he']
    rfl
  | false =>
    cases hc : s.contiguous with
    | true =>
      rw [← htoEnd hc, he]
      rfl
    | false => rfl

theorem covering_of_moved {f : Folding} {candidate : Text} {humps : Spans} {shares : List (Slot × Nat)}
    (hmem : ∀ p ∈ shares, (Slot.ofHumps f candidate humps)[p.1.index]? = some p.1) {offset : Int} {spans : Spans}
    (hmoved : List.Forall₂ (Span.IsMoved offset) (spansOf shares) spans)
    : Covering humps offset (shares.map shareOf) spans := by
  rw [spansOf, List.forall₂_map_left_iff] at hmoved
  rw [Covering, List.forall₂_map_left_iff]
  apply ((List.forall₂_and_left _ _).mpr ⟨hmem, hmoved⟩).imp
  rintro p span ⟨hslot, hspan⟩
  rcases (Slot.ofHumps.go_getElem? f candidate humps hslot).2.2 with ⟨s, hs, hstart, _⟩
  rw [hstart] at hspan
  exact ⟨s, hs, hspan⟩

theorem align_least {f : Folding} {candidate : Text} {humps : Spans} {chunk : Chunk} {offset : Int}
    {a : Alignment} (h : (align f candidate humps chunk).mapM (·.move offset) = .ok (some a))
    : ∃ shares, ShowsLeast (humps.map fun s => f.fold (s.textOf candidate)) (f.fold chunk.text) humps offset
        shares a := by
  rcases Alignment.mapM_move_eq_some h with ⟨b, halign, hmove⟩
  have hmoved := Alignment.isMoved_of_move_eq_ok hmove
  have hlined := Slot.lined_ofHumps f candidate humps
  have hlength : (Slot.ofHumps f candidate humps).length = humps.length := by
    rw [← length_textsOf, Slot.textsOf_ofHumps, List.length_map]
  rcases Option.map_eq_some_iff.mp halign with ⟨⟨s, shares⟩, hsearch, rfl⟩
  rcases search_spec hlined (f.fold chunk.text) with ⟨hnone, _⟩ | ⟨s', shares', hsearch', hfound⟩
  . rw [hsearch] at hnone
    cases hnone
  . rw [hsearch] at hsearch'
    cases hsearch'
    refine ⟨shares.map shareOf, ?_⟩
    have hspells := hfound.traced.spells
    rw [Slot.textsOf_ofHumps] at hspells
    constructor
    . exact hspells
    . rcases hmoved.spans with ⟨spans, hspans, hnormal⟩
      exact ⟨spans, covering_of_moved hfound.traced.slots_mem hspans, hnormal⟩
    . rw [hmoved.fromStart_eq]
      exact hfound.starts
    . rw [hmoved.contiguous_eq]
      exact hfound.contiguous_eq
    . rw [hmoved.toEnd_eq, ← hlength]
      exact hfound.toEnd_eq_and
    . intro others hothers hkind
      rw [← Slot.textsOf_ofHumps] at hothers
      rw [Alignment.kind_of_move_eq_ok hmove, ← hlength] at hkind
      exact search_least hlined hsearch hothers hkind

-- `c` and `ab` would be of the same kind, but the shorter beginning `a` comes first.
theorem align_least_cab
    : let candidate : Text := ['X', 'C', 'a', 'A', 'b', 'B', 'A', 'b']
      let a : Alignment := ⟨false, true, false, [⟨3, 1⟩, ⟨5, 1⟩, ⟨7, 1⟩]⟩
      (align .plain candidate (wordHumps candidate) ⟨['c', 'a', 'b']⟩).mapM (·.move 2) = .ok (some a) ∧
        ∃ shares, ShowsLeast ((wordHumps candidate).map fun s => Folding.plain.fold (s.textOf candidate))
          (Folding.plain.fold ['c', 'a', 'b']) (wordHumps candidate) 2 shares a := by
  intro candidate a
  have halign : (align .plain candidate (wordHumps candidate) ⟨['c', 'a', 'b']⟩).mapM (·.move 2) = .ok (some a) := by
    decide +kernel
  exact ⟨halign, align_least halign⟩

end IdentSearch.Spread
