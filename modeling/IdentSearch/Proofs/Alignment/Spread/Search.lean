import IdentSearch.Proofs.Alignment.Spread.Table

/-!
The search for the best way to spread a pattern: it finds one whenever there is one, what it traces
through the rows spells the pattern, and no other way gives a stronger kind.
-/

namespace IdentSearch.Spread

variable {slots : List Slot} {pattern rest : Text} {shape : Shape} {length h : Nat} {slot : Slot}

/-! ### The best start -/

theorem best_foldl (b : Start) (ss : List Start)
    : ss.foldl (fun b t => if b.kind.rank < t.kind.rank then t else b) b ∈ b :: ss ∧
        ∀ u ∈ b :: ss,
          u.kind.rank
            ≤
          (ss.foldl (fun b t => if b.kind.rank < t.kind.rank then t else b) b).kind.rank := by
  induction ss generalizing b with
  | nil => simp
  | cons t ts ih =>
    rw [List.foldl_cons]
    rcases ih (if b.kind.rank < t.kind.rank then t else b) with ⟨hmem, hmax⟩
    have hwinner : b.kind.rank ≤ (if b.kind.rank < t.kind.rank then t else b).kind.rank ∧
        t.kind.rank ≤ (if b.kind.rank < t.kind.rank then t else b).kind.rank := by
      split
      . omega
      . omega
    have hnext := hmax _ List.mem_cons_self
    constructor
    . rcases List.mem_cons.mp hmem with heq | hmem
      . rw [heq]
        split
        . simp
        . simp
      . simp [hmem]
    . intro u hu
      rcases List.mem_cons.mp hu with rfl | hu
      . exact Nat.le_trans hwinner.1 hnext
      . rcases List.mem_cons.mp hu with rfl | hu
        . exact Nat.le_trans hwinner.2 hnext
        . exact hmax u (List.mem_cons_of_mem _ hu)

theorem best_eq_some {list : List Start} {s : Start} (hbest : Start.best list = some s)
    : s ∈ list ∧ ∀ u ∈ list, u.kind.rank ≤ s.kind.rank := by
  cases list with
  | nil => cases hbest
  | cons b ss =>
    cases hbest
    exact best_foldl b ss

theorem best_eq_none {list : List Start} (hbest : Start.best list = none) : list = [] := by
  cases list with
  | nil => rfl
  | cons b ss => cases hbest

/-! ### Going on behind a hump -/

theorem continuation?_starts {isLast : Bool} {list : List Start}
    : (Row.starts list).continuation? shape isLast h =
        (list.find? fun s =>
          decide (h < s.hump ∧ (shape ≠ .any → s.hump = h + 1)) && s.allows shape).map
            fun s => .next s.hump := by
  unfold Row.continuation?
  dsimp only
  congr 2
  funext s
  cases shape with
  | any => simp [Start.allows]
  | contiguous =>
    rw [Bool.eq_iff_iff]
    simp only [Start.allows, Bool.and_eq_true, beq_iff_eq, decide_eq_true_eq]
    constructor
    . rintro ⟨hhump, hs⟩
      exact ⟨⟨by omega, fun _ => hhump⟩, hs⟩
    . rintro ⟨⟨_, hhump⟩, hs⟩
      exact ⟨hhump Shape.noConfusion, hs⟩
  | toEnd =>
    rw [Bool.eq_iff_iff]
    simp only [Start.allows, Bool.and_eq_true, beq_iff_eq, decide_eq_true_eq]
    constructor
    . rintro ⟨hhump, hs⟩
      exact ⟨⟨by omega, fun _ => hhump⟩, hs⟩
    . rintro ⟨⟨_, hhump⟩, hs⟩
      exact ⟨hhump Shape.noConfusion, hs⟩

theorem Row.Describes.not_follows {row : Row} (hrow : row.Describes slots length rest)
    (hreach : ∀ later, h < later → Opens (textsOf slots) rest shape later → Reaches slots length rest later)
    (hnone : (row.continuation? shape (h + 1 == slots.length) h).isNone)
    : ¬ Follows (textsOf slots) rest shape h := by
  cases row with
  | finished =>
    cases hrow
    rintro (⟨_, hlast⟩ | ⟨next, _, _, hopens⟩)
    . rw [length_textsOf] at hlast
      by_cases hshape : shape = .toEnd
      . simp [Row.continuation?, hlast hshape] at hnone
      . simp [Row.continuation?, hshape] at hnone
    . exact not_opens_nil hopens
  | starts list =>
    rcases hrow with ⟨hne, _, hlist⟩
    rw [continuation?_starts, Option.isNone_map, Option.isNone_iff_eq_none, List.find?_eq_none] at hnone
    rintro (⟨hnil, _⟩ | ⟨next, hlt, hnext, hopens⟩)
    . exact hne hnil
    . rcases (hlist shape next).mpr ⟨hreach next hlt hopens, hopens⟩ with ⟨s, hs, rfl, hallows⟩
      apply hnone s hs
      rw [Bool.and_eq_true, decide_eq_true_eq]
      exact ⟨⟨hlt, hnext⟩, hallows⟩

theorem Row.Describes.of_stop {row : Row} (hrow : row.Describes slots length rest)
    (hstop : row.continuation? shape (h + 1 == slots.length) h = some .stop)
    : rest = [] ∧ (shape = .toEnd → h + 1 = slots.length) := by
  cases row with
  | finished =>
    refine ⟨hrow, ?_⟩
    rintro rfl
    by_contra hlast
    simp [Row.continuation?, hlast] at hstop
  | starts list =>
    rw [continuation?_starts, Option.map_eq_some_iff] at hstop
    rcases hstop with ⟨_, _, heq⟩
    cases heq

theorem Row.Describes.of_next {row : Row} {next : Nat} (hrow : row.Describes slots length rest)
    (hnext : row.continuation? shape (h + 1 == slots.length) h = some (.next next))
    : h < next ∧ (shape ≠ .any → next = h + 1) ∧ Opens (textsOf slots) rest shape next := by
  cases row with
  | finished =>
    simp only [Row.continuation?] at hnext
    split at hnext
    . cases hnext
    . cases hnext
  | starts list =>
    rcases hrow with ⟨_, _, hlist⟩
    rw [continuation?_starts, Option.map_eq_some_iff] at hnext
    rcases hnext with ⟨s, hfind, heq⟩
    cases heq
    have hfound := List.find?_some hfind
    rw [Bool.and_eq_true, decide_eq_true_eq] at hfound
    rcases hfound with ⟨⟨hlt, hhump⟩, hallows⟩
    exact ⟨hlt, hhump, ((hlist shape s.hump).mp ⟨s, List.mem_of_find?_eq_some hfind, rfl, hallows⟩).2⟩

/-! ### The trace -/

def shareOf (p : Slot × Nat) : Share := ⟨p.1.index, p.2⟩

structure Traced (slots : List Slot) (shape : Shape) (pattern : Text) (shares : List (Slot × Nat)) : Prop where
  slots_mem : ∀ p ∈ shares, slots[p.1.index]? = some p.1
  spells : Spells (textsOf slots) pattern (shares.map shareOf)
  allows : shape.Allows slots.length (shares.map shareOf)

theorem traced_singleton (hlined : Lined slots) (hslot : slots[h]? = some slot) {size : Nat}
    (hbegins : Begins (textsOf slots) pattern ⟨h, size⟩ [])
    (hlast : shape = .toEnd → h + 1 = slots.length) : Traced slots shape pattern [(slot, size)] := by
  have hindex := hlined.index_eq hslot
  subst hindex
  constructor
  . simpa using hslot
  . exact spells_singleton.mpr hbegins
  . exact hlast

theorem Traced.cons (hlined : Lined slots) (hslot : slots[h]? = some slot) {size : Nat}
    (hbegins : Begins (textsOf slots) pattern ⟨h, size⟩ rest) {next : Slot × Nat}
    {shares : List (Slot × Nat)} (hlt : h < next.1.index) (hnext : shape ≠ .any → next.1.index = h + 1)
    (htraced : Traced slots shape rest (next :: shares))
    : Traced slots shape pattern ((slot, size) :: next :: shares) := by
  have hindex := hlined.index_eq hslot
  subst hindex
  constructor
  . intro p hp
    rcases List.mem_cons.mp hp with rfl | hp
    . exact hslot
    . exact htraced.slots_mem p hp
  . exact spells_cons_cons.mpr ⟨rest, hbegins, hlt, htraced.spells⟩
  . exact ⟨hnext, htraced.allows⟩

-- A beginning that is longer than what is taken already goes on with the next character of the hump.
theorem next_char {texts : List Text} {text : Text} {taken size : Nat} {c : Char} {cs : Text}
    (htext : texts[h]? = some text) (hlt : taken < size) (hle : size ≤ text.length)
    (hbegins : Begins texts (text.take taken ++ c :: cs) ⟨h, size⟩ rest)
    : text.drop taken = c :: text.drop (taken + 1) := by
  rcases hbegins with ⟨text', htext', _, _, heq⟩
  rw [htext] at htext'
  cases htext'
  dsimp only at heq
  have htaken : (text.take taken).length = taken := by
    rw [List.length_take]
    omega
  have hget := congrArg (fun t => t[taken]?) heq
  rw [List.getElem?_append_right (Nat.le_of_eq htaken), htaken, Nat.sub_self, List.getElem?_cons_zero,
    List.getElem?_append_left (by rw [List.length_take]; omega), List.getElem?_take_of_lt hlt,
    List.getElem?_eq_getElem (by omega)] at hget
  rw [List.drop_eq_getElem_cons (by omega), ← Option.some_inj.mp hget]

theorem begins_next {text : Text} {taken : Nat} {c : Char} {cs : Text} {texts : List Text}
    (htext : texts[h]? = some text) (hdrop : text.drop taken = c :: text.drop (taken + 1))
    : Begins texts (text.take taken ++ c :: cs) ⟨h, taken + 1⟩ cs := by
  have hlen : taken < text.length := by
    have := congrArg List.length hdrop
    simp only [List.length_drop, List.length_cons] at this
    omega
  refine ⟨text, htext, Nat.succ_pos _, hlen, ?_⟩
  have hget : text[taken]? = some c := by
    rw [← List.head?_drop, hdrop, List.head?_cons]
  rw [List.take_add_one, hget, Option.toList_some, List.append_assoc, List.singleton_append]

theorem take_succ_append {text : Text} {taken : Nat} {c : Char} {cs : Text}
    (hdrop : text.drop taken = c :: text.drop (taken + 1))
    : text.take (taken + 1) ++ cs = text.take taken ++ c :: cs := by
  have hget : text[taken]? = some c := by
    rw [← List.head?_drop, hdrop, List.head?_cons]
  rw [List.take_add_one, hget, Option.toList_some, List.append_assoc, List.singleton_append]

-- The induction is on the characters that are left of the pattern. The characters of the current hump
-- that are taken already count as part of the pattern that is spelled.
theorem trace_traced (taken : Nat) (hlined : Lined slots) {rows : List Row}
    (hrows : ∀ k, k < pattern.length
      → ∃ row, rows[k]? = some row ∧ row.Describes slots length (pattern.drop (k + 1)))
    (hslot : slots[h]? = some slot) (hreach : length ≤ slot.before + (taken + pattern.length))
    (hopens : ∃ size rest, taken < size ∧
      Begins (textsOf slots) (slot.text.take taken ++ pattern) ⟨h, size⟩ rest ∧
        Follows (textsOf slots) rest shape h)
    : ∃ size shares, trace slots shape pattern rows slot (slot.text.drop taken) taken
          = some ((slot, size) :: shares) ∧
        Traced slots shape (slot.text.take taken ++ pattern) ((slot, size) :: shares) := by
  rcases hopens with ⟨size, rest, hlt, hbegins, hfollows⟩
  have htext := getElem?_textsOf.mpr ⟨slot, hslot, rfl⟩
  have hle : size ≤ slot.text.length := ((begins_iff htext).mp hbegins).2.1
  induction pattern generalizing rows h slot taken size rest with
  | nil =>
    have hlen := hbegins.length_eq
    simp only [List.append_nil, List.length_take] at hlen
    omega
  | cons c cs ih =>
    have hdrop : slot.text.drop taken = c :: slot.text.drop (taken + 1) :=
      next_char htext hlt hle hbegins
    have hbegins' : Begins (textsOf slots) (slot.text.take taken ++ c :: cs) ⟨h, taken + 1⟩ cs :=
      begins_next htext hdrop
    rcases hrows 0 (Nat.succ_pos _) with ⟨row, hrow, hdescribes⟩
    cases rows with
    | nil => cases hrow
    | cons row' rows =>
      cases hrow
      rw [List.length_cons] at hreach
      have hlater : ∀ later, h < later → Opens (textsOf slots) cs shape later
          → Reaches slots length cs later := by
        apply reaches_behind (taken + 1) hlined hslot
        . omega
        . omega
      have hrows' : ∀ k, k < cs.length
          → ∃ row, rows[k]? = some row ∧ row.Describes slots length (cs.drop (k + 1)) := by
        intro k hk
        exact hrows (k + 1) (Nat.succ_lt_succ hk)
      have hindex := hlined.index_eq hslot
      rw [hdrop]
      unfold trace
      rw [if_pos rfl, hindex]
      cases hcont : row.continuation? shape (h + 1 == slots.length) h with
      | none =>
        have hnot := hdescribes.not_follows hlater (by rw [hcont]; rfl)
        have hne : size ≠ taken + 1 := by
          rintro rfl
          rw [← hbegins.drop_eq, hbegins'.drop_eq] at hfollows
          exact hnot hfollows
        rw [← take_succ_append hdrop] at hbegins ⊢
        exact ih (taken + 1) hrows' hslot (by omega) size rest (by omega) hbegins hfollows htext hle
      | some continuation =>
        cases continuation with
        | stop =>
          rcases hdescribes.of_stop hcont with ⟨rfl, hlast⟩
          exact ⟨taken + 1, [], rfl, traced_singleton hlined hslot hbegins' hlast⟩
        | next later =>
          rcases hdescribes.of_next hcont with ⟨hgt, hnext, hopens⟩
          rcases hlater later hgt hopens with ⟨slot', hslot', hreach'⟩
          rcases opens_iff.mp hopens with ⟨size', rest', hbegins'', hfollows'⟩
          have htext' := getElem?_textsOf.mpr ⟨slot', hslot', rfl⟩
          have hfits := (begins_iff htext').mp hbegins''
          rcases ih 0 hrows' hslot' (by omega) size' rest' hfits.1 hbegins'' hfollows' htext' hfits.2.1
            with ⟨size'', shares, htrace, htraced⟩
          have hindex' := hlined.index_eq hslot'
          subst hindex'
          dsimp only
          rw [hslot']
          dsimp only
          rw [List.drop_zero] at htrace
          rw [htrace]
          exact ⟨taken + 1, _, rfl, Traced.cons hlined hslot hbegins' hgt hnext htraced⟩

/-! ### The whole search -/

structure Found (slots : List Slot) (pattern : Text) (s : Start) (shares : List (Slot × Nat)) : Prop where
  traced : Traced slots s.shape pattern shares
  starts : (s.hump == 0) = fromStart (shares.map shareOf)
  contiguous_eq : s.contiguous = contiguous (shares.map shareOf)
  toEnd_eq : s.contiguous = true → s.toEnd = toEnd slots.length (shares.map shareOf)
  strongest : ∀ others, Spells (textsOf slots) pattern others
    → (kindOf slots.length others).rank ≤ s.kind.rank

theorem spells_cases {texts : List Text} {shares : List Share} (hspells : Spells texts pattern shares)
    : ∃ s ss, shares = s :: ss := by
  cases shares with
  | nil => exact absurd rfl hspells.nonempty
  | cons s ss => exact ⟨s, ss, rfl⟩

theorem Opens.contiguous {texts : List Text} (hopens : Opens texts pattern .toEnd h)
    : Opens texts pattern .contiguous h := by
  rcases hopens with ⟨s, ss, hs, hspells, hallows⟩
  exact ⟨s, ss, hs, hspells, allows_contiguous_iff.mpr (allows_toEnd_iff.mp hallows).1⟩

def Start.Reports (texts : List Text) (pattern : Text) (s : Start) : Prop :=
  ∀ shape, s.allows shape = true ↔ Opens texts pattern shape s.hump

theorem Start.allows_shape (s : Start) : s.allows s.shape = true := by
  unfold Start.shape Start.allows
  by_cases htoEnd : s.toEnd = true
  . simp [htoEnd]
  . by_cases hcontiguous : s.contiguous = true
    . simp [htoEnd, hcontiguous]
    . simp [htoEnd, hcontiguous]

theorem Start.Reports.rank_kindOf_le {texts : List Text} {s : Start} (hreports : s.Reports texts pattern)
    {u : Share} {us : List Share} (hspells : Spells texts pattern (u :: us)) (hhump : u.hump = s.hump)
    : (kindOf texts.length (u :: us)).rank ≤ s.kind.rank := by
  unfold kindOf Start.kind
  have hstart : fromStart (u :: us) = (s.hump == 0) := by
    rw [← hhump]
    rfl
  rw [hstart]
  apply rank_ofShape_le
  . intro hcontiguous
    exact (hreports .contiguous).mpr ⟨u, us, hhump, hspells, allows_contiguous_iff.mpr hcontiguous⟩
  . intro hcontiguous htoEnd
    exact (hreports .toEnd).mpr ⟨u, us, hhump, hspells, allows_toEnd_iff.mpr ⟨hcontiguous, htoEnd⟩⟩

theorem Start.Reports.flags {texts : List Text} {s : Start} (hreports : s.Reports texts pattern)
    {u : Share} {us : List Share} (hspells : Spells texts pattern (u :: us)) (hhump : u.hump = s.hump)
    (hallows : s.shape.Allows texts.length (u :: us))
    : s.contiguous = Spread.contiguous (u :: us) ∧
        (s.contiguous = true → s.toEnd = Spread.toEnd texts.length (u :: us)) := by
  have hcontiguous : Spread.contiguous (u :: us) = true → s.contiguous = true := fun hc =>
    (hreports .contiguous).mpr ⟨u, us, hhump, hspells, allows_contiguous_iff.mpr hc⟩
  have htoEnd : Spread.contiguous (u :: us) = true → Spread.toEnd texts.length (u :: us) = true
      → s.toEnd = true := fun hc he =>
    (hreports .toEnd).mpr ⟨u, us, hhump, hspells, allows_toEnd_iff.mpr ⟨hc, he⟩⟩
  have hboth : s.toEnd = true → s.contiguous = true := fun he =>
    (hreports .contiguous).mpr ((hreports .toEnd).mp he).contiguous
  unfold Start.shape at hallows
  split at hallows
  . next he =>
    rcases allows_toEnd_iff.mp hallows with ⟨hc', he'⟩
    rw [he, hboth he, hc', he']
    exact ⟨rfl, fun _ => rfl⟩
  . next he =>
    rw [Bool.not_eq_true] at he
    split at hallows
    . next hc =>
      have hc' := allows_contiguous_iff.mp hallows
      rw [hc, hc', he]
      refine ⟨rfl, ?_⟩
      intro _
      by_contra hne
      have := htoEnd hc' (by simpa using Ne.symm hne)
      simp [he] at this
    . next hc =>
      rw [Bool.not_eq_true] at hc
      rw [hc]
      refine ⟨?_, fun hfalse => absurd hfalse Bool.false_ne_true⟩
      by_contra hne
      have := hcontiguous (by simpa using Ne.symm hne)
      simp [hc] at this

structure Lists (slots : List Slot) (pattern : Text) (list : List Start) : Prop where
  sorted : list.Pairwise fun s u => s.hump < u.hump
  mem_iff : ∀ shape h, (∃ s ∈ list, s.hump = h ∧ s.allows shape = true)
    ↔ Reaches slots pattern.length pattern h ∧ Opens (textsOf slots) pattern shape h

theorem Lists.reports {list : List Start} (hlists : Lists slots pattern list) {s : Start} (hs : s ∈ list)
    : s.Reports (textsOf slots) pattern := by
  intro shape
  constructor
  . intro hallows
    exact ((hlists.mem_iff shape s.hump).mp ⟨s, hs, rfl, hallows⟩).2
  . intro hopens
    have hreach := ((hlists.mem_iff .any s.hump).mp ⟨s, hs, rfl, rfl⟩).1
    rcases (hlists.mem_iff shape s.hump).mpr ⟨hreach, hopens⟩ with ⟨u, hu, hhump, hallows⟩
    rcases List.mem_iff_getElem.mp hs with ⟨i, hi, rfl⟩
    rcases List.mem_iff_getElem.mp hu with ⟨j, hj, rfl⟩
    rcases Nat.lt_trichotomy i j with hlt | rfl | hlt
    . have := List.pairwise_iff_getElem.mp hlists.sorted i j hi hj hlt
      omega
    . exact hallows
    . have := List.pairwise_iff_getElem.mp hlists.sorted j i hj hi hlt
      omega

-- The whole pattern has nothing before it, so every hump is within its reach.
theorem Lists.exists_start {list : List Start} (hlists : Lists slots pattern list) {u : Share}
    {us : List Share} (hspells : Spells (textsOf slots) pattern (u :: us)) : ∃ s ∈ list, s.hump = u.hump := by
  have hopens : Opens (textsOf slots) pattern .any u.hump := ⟨u, us, rfl, hspells, allows_any _ _⟩
  rcases hopens.getElem? with ⟨slot, hslot⟩
  have hreach : Reaches slots pattern.length pattern u.hump := ⟨slot, hslot, Nat.le_add_left _ _⟩
  rcases (hlists.mem_iff .any u.hump).mpr ⟨hreach, hopens⟩ with ⟨s, hs, hhump, _⟩
  exact ⟨s, hs, hhump⟩

theorem Lists.strongest {list : List Start} (hlists : Lists slots pattern list) {s : Start}
    (hmax : ∀ u ∈ list, u.kind.rank ≤ s.kind.rank) {others : List Share}
    (hspells : Spells (textsOf slots) pattern others)
    : (kindOf slots.length others).rank ≤ s.kind.rank := by
  rcases spells_cases hspells with ⟨u, us, rfl⟩
  rcases hlists.exists_start hspells with ⟨s', hs', hhump⟩
  rw [← length_textsOf]
  apply Nat.le_trans
  . exact (hlists.reports hs').rank_kindOf_le hspells hhump.symm
  . exact hmax s' hs'

theorem Lists.found {list : List Start} (hlists : Lists slots pattern list) (hlined : Lined slots)
    {rows : List Row} (hrows : ∀ k, k < pattern.length
      → ∃ row, rows[k]? = some row ∧ row.Describes slots pattern.length (pattern.drop (k + 1)))
    {s : Start} (hbest : Start.best list = some s)
    : ∃ slot shares, slots[s.hump]? = some slot ∧
        trace slots s.shape pattern rows slot slot.text 0 = some shares ∧
          Found slots pattern s shares := by
  rcases best_eq_some hbest with ⟨hs, hmax⟩
  have hreports := hlists.reports hs
  have hopens := (hreports s.shape).mp s.allows_shape
  rcases hopens.getElem? with ⟨slot, hslot⟩
  rcases opens_iff.mp hopens with ⟨size, rest, hbegins, hfollows⟩
  have hpos := ((begins_iff (getElem?_textsOf.mpr ⟨slot, hslot, rfl⟩)).mp hbegins).1
  rcases trace_traced 0 hlined hrows hslot (by omega) ⟨size, rest, hpos, hbegins, hfollows⟩
    with ⟨size', shares, htrace, htraced⟩
  rw [List.drop_zero] at htrace
  rw [List.take_zero, List.nil_append] at htraced
  have hindex := hlined.index_eq hslot
  have hflags := hreports.flags htraced.spells hindex (by simpa using htraced.allows)
  rw [length_textsOf] at hflags
  refine ⟨slot, (slot, size') :: shares, hslot, htrace, ?_⟩
  constructor
  . exact htraced
  . rw [← hindex]
    rfl
  . exact hflags.1
  . exact hflags.2
  . intro others hspells
    exact hlists.strongest hmax hspells

-- The table of a pattern begins with the starts of the whole pattern; the other rows are those of its rests.
theorem table_lists (hlined : Lined slots) (hne : pattern ≠ [])
    : ∃ list rows, table slots pattern.length (roomOf slots) pattern = .starts list :: rows ∧
        Lists slots pattern list ∧
        ∀ k, k < pattern.length
          → ∃ row, rows[k]? = some row ∧ row.Describes slots pattern.length (pattern.drop (k + 1)) := by
  have hdescribes := table_describes hlined pattern.length pattern
  cases pattern with
  | nil => exact absurd rfl hne
  | cons c cs =>
    rcases hdescribes 0 (Nat.zero_le _) with ⟨row, hrow, hlist⟩
    unfold table at hrow ⊢
    cases hrow
    refine ⟨_, _, rfl, ⟨hlist.2.1, hlist.2.2⟩, ?_⟩
    intro k hk
    exact hdescribes (k + 1) hk

theorem search_spec (hlined : Lined slots) (pattern : Text)
    : (search slots pattern = none ∧ ∀ shares, ¬ Spells (textsOf slots) pattern shares) ∨
        ∃ s shares, search slots pattern = some (s, shares) ∧ Found slots pattern s shares := by
  by_cases hne : pattern = []
  . subst hne
    refine .inl ⟨rfl, ?_⟩
    intro shares hspells
    rcases spells_cases hspells with ⟨s, ss, rfl⟩
    exact not_opens_nil ⟨s, ss, rfl, hspells, allows_any _ _⟩
  . rcases table_lists hlined hne with ⟨list, rows, htable, hlists, hrows⟩
    unfold search
    rw [htable]
    dsimp only
    cases hbest : Start.best list with
    | none =>
      refine .inl ⟨rfl, ?_⟩
      intro shares hspells
      rcases spells_cases hspells with ⟨u, us, rfl⟩
      rcases hlists.exists_start hspells with ⟨s, hs, _⟩
      rw [best_eq_none hbest] at hs
      cases hs
    | some s =>
      rcases hlists.found hlined hrows hbest with ⟨slot, shares, hslot, htrace, hfound⟩
      refine .inr ⟨s, shares, ?_, hfound⟩
      dsimp only
      rw [hslot]
      dsimp only
      rw [htrace]
      rfl

end IdentSearch.Spread
