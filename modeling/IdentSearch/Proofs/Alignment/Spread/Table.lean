import IdentSearch.Proofs.Alignment.Spread.Spelling

/-!
The rows of the search: a row lists exactly the humps at which a rest of the pattern can start, of those
that the characters before can reach. No way to spread the whole pattern leaves these humps.
-/

namespace IdentSearch

namespace Spread

/-! ### Slots -/

theorem roomOf_cons (slot : Slot) (slots : List Slot)
    : roomOf (slot :: slots) = slot.text.length + roomOf slots := by
  rfl

theorem roomOf_append (xs ys : List Slot) : roomOf (xs ++ ys) = roomOf xs + roomOf ys := by
  induction xs with
  | nil => simp [roomOf]
  | cons x xs ih =>
    rw [List.cons_append, roomOf_cons, roomOf_cons, ih]
    omega

theorem roomOf_take_le {i j : Nat} (h : i ≤ j) (slots : List Slot)
    : roomOf (slots.take i) ≤ roomOf (slots.take j) := by
  have hsplit : slots.take i ++ (slots.take j).drop i = slots.take j := by
    conv => rhs; rw [← List.take_append_drop i (slots.take j)]
    rw [List.take_take, Nat.min_eq_left h]
  rw [← hsplit, roomOf_append]
  exact Nat.le_add_right _ _

theorem roomOf_take_succ {slots : List Slot} {i : Nat} {slot : Slot} (h : slots[i]? = some slot)
    : roomOf (slots.take (i + 1)) = roomOf (slots.take i) + slot.text.length := by
  rw [List.take_add_one, h, roomOf_append, Option.toList_some, roomOf_cons]
  rfl

structure Lined (slots : List Slot) : Prop where
  index_eq : ∀ {i : Nat} {slot : Slot}, slots[i]? = some slot → slot.index = i
  before_eq : ∀ {i : Nat} {slot : Slot}, slots[i]? = some slot → slot.before = roomOf (slots.take i)

variable {slots : List Slot} {i j : Nat} {slot next : Slot}

theorem Lined.before_add_le (h : Lined slots) (hi : slots[i]? = some slot) (hj : slots[j]? = some next)
    (hlt : i < j) : slot.before + slot.text.length ≤ next.before := by
  rw [h.before_eq hi, h.before_eq hj, ← roomOf_take_succ hi]
  exact roomOf_take_le hlt slots

theorem Lined.before_add_le_room (h : Lined slots) (hi : slots[i]? = some slot)
    : slot.before + slot.text.length ≤ roomOf slots := by
  rw [h.before_eq hi, ← roomOf_take_succ hi]
  have := roomOf_append (slots.take (i + 1)) (slots.drop (i + 1))
  rw [List.take_append_drop] at this
  omega

theorem Lined.index_lt (h : Lined slots) : slots.Pairwise fun s u => s.index < u.index := by
  rw [List.pairwise_iff_getElem]
  intro i j hi hj hlt
  rw [h.index_eq (List.getElem?_eq_getElem hi), h.index_eq (List.getElem?_eq_getElem hj)]
  exact hlt

theorem Lined.getElem?_index (h : Lined slots) (hmem : slot ∈ slots) : slots[slot.index]? = some slot := by
  rcases List.mem_iff_getElem?.mp hmem with ⟨i, hi⟩
  rw [h.index_eq hi, hi]

def textsOf (slots : List Slot) : List Text := slots.map (·.text)

@[simp]
theorem length_textsOf (slots : List Slot) : (textsOf slots).length = slots.length :=
  List.length_map ..

theorem getElem?_textsOf {text : Text}
    : (textsOf slots)[i]? = some text ↔ ∃ slot, slots[i]? = some slot ∧ slot.text = text := by
  rw [textsOf, List.getElem?_map, Option.map_eq_some_iff]

end Spread

namespace Slot

variable (f : Folding) (candidate : Text)

theorem ofHumps.go_getElem? (humps : Spans) {index before i : Nat} {slot : Slot}
    (h : (ofHumps.go f candidate index before humps)[i]? = some slot)
    : slot.index = index + i ∧
        slot.before = before + Spread.roomOf ((ofHumps.go f candidate index before humps).take i) ∧
        ∃ s, humps[i]? = some s ∧ slot.start = s.start ∧ slot.text = f.fold (s.textOf candidate) := by
  induction humps generalizing index before i with
  | nil => cases h
  | cons s ss ih =>
    unfold ofHumps.go at h ⊢
    cases i with
    | zero =>
      cases h
      exact ⟨rfl, rfl, s, rfl, rfl, rfl⟩
    | succ i =>
      rcases ih h with ⟨hindex, hbefore, hspan⟩
      refine ⟨?_, ?_, hspan⟩
      . omega
      . rw [List.take_succ_cons, Spread.roomOf_cons, hbefore]
        dsimp only
        omega

theorem lined_ofHumps (humps : Spans) : Spread.Lined (ofHumps f candidate humps) := by
  constructor
  . intro i slot h
    have := (ofHumps.go_getElem? f candidate humps h).1
    omega
  . intro i slot h
    have := (ofHumps.go_getElem? f candidate humps h).2.1
    rw [this, Nat.zero_add]
    rfl

theorem textsOf_ofHumps (humps : Spans)
    : Spread.textsOf (ofHumps f candidate humps) = humps.map fun s => f.fold (s.textOf candidate) := by
  suffices h : ∀ index before, Spread.textsOf (ofHumps.go f candidate index before humps)
      = humps.map fun s => f.fold (s.textOf candidate) by
    exact h 0 0
  induction humps with
  | nil =>
    intro _ _
    rfl
  | cons s ss ih =>
    intro index before
    rw [ofHumps.go, Spread.textsOf, List.map_cons, List.map_cons, ← ih]
    rfl

end Slot

namespace Spread

variable {slots : List Slot} {texts : List Text} {pattern rest : Text} {shape : Shape}
variable {length h : Nat} {slot : Slot}

/-! ### What rows stand for -/

def Opens (texts : List Text) (pattern : Text) (shape : Shape) (h : Nat) : Prop :=
  ∃ s ss, s.hump = h ∧ Spells texts pattern (s :: ss) ∧ shape.Allows texts.length (s :: ss)

def Follows (texts : List Text) (rest : Text) (shape : Shape) (h : Nat) : Prop :=
  (rest = [] ∧ (shape = .toEnd → h + 1 = texts.length)) ∨
    ∃ next, h < next ∧ (shape ≠ .any → next = h + 1) ∧ Opens texts rest shape next

/-- The characters before the rest of a pattern of the given length fit before hump number `h`. -/
def Reaches (slots : List Slot) (length : Nat) (rest : Text) (h : Nat) : Prop :=
  ∃ slot, slots[h]? = some slot ∧ length ≤ slot.before + rest.length

theorem opens_iff
    : Opens texts pattern shape h
        ↔
      ∃ size rest, Begins texts pattern ⟨h, size⟩ rest ∧ Follows texts rest shape h := by
  constructor
  . rintro ⟨s, ss, rfl, hspells, hallows⟩
    cases ss with
    | nil => exact ⟨s.size, [], spells_singleton.mp hspells, .inl ⟨rfl, hallows⟩⟩
    | cons u us =>
      rcases spells_cons_cons.mp hspells with ⟨rest, hbegins, hlt, hrest⟩
      exact ⟨s.size, rest, hbegins, .inr ⟨u.hump, hlt, hallows.1, u, us, rfl, hrest, hallows.2⟩⟩
  . rintro ⟨size, rest, hbegins, ⟨rfl, hlast⟩ | ⟨next, hlt, hnext, u, us, rfl, hrest, hallows⟩⟩
    . exact ⟨⟨h, size⟩, [], rfl, spells_singleton.mpr hbegins, hlast⟩
    . exact ⟨⟨h, size⟩, u :: us, rfl, spells_cons_cons.mpr ⟨rest, hbegins, hlt, hrest⟩, hnext, hallows⟩

theorem Opens.getElem? (hopens : Opens (textsOf slots) pattern shape h) : ∃ slot, slots[h]? = some slot := by
  rcases opens_iff.mp hopens with ⟨_, _, ⟨_, htext, _⟩, _⟩
  rcases getElem?_textsOf.mp htext with ⟨slot, hslot, _⟩
  exact ⟨slot, hslot⟩

theorem not_opens_nil : ¬ Opens texts [] shape h := by
  intro hopens
  rcases opens_iff.mp hopens with ⟨size, rest, hbegins, _⟩
  have hlen := hbegins.length_eq
  rcases hbegins with ⟨_, _, hpos, _⟩
  simp only [List.length_nil] at hlen hpos
  omega

theorem Opens.any (hopens : Opens texts pattern shape h) : Opens texts pattern .any h := by
  rcases hopens with ⟨s, ss, hs, hspells, _⟩
  exact ⟨s, ss, hs, hspells, allows_any _ _⟩

theorem begins_iff {text : Text} {size : Nat} (htext : texts[h]? = some text)
    : Begins texts pattern ⟨h, size⟩ rest
        ↔
      1 ≤ size ∧ size ≤ text.length ∧ size ≤ pattern.length ∧ pattern.take size = text.take size ∧
        rest = pattern.drop size := by
  constructor
  . intro hbegins
    have hlen := hbegins.length_eq
    have hdrop := hbegins.drop_eq
    rcases hbegins with ⟨text', htext', hpos, hle, heq⟩
    dsimp only at hlen htext' hpos hle heq
    rw [htext] at htext'
    cases htext'
    refine ⟨hpos, hle, by omega, ?_, hdrop.symm⟩
    rw [heq, List.take_left' (by simpa using hle)]
  . rintro ⟨hpos, hle, _, htake, rfl⟩
    refine ⟨text, htext, hpos, hle, ?_⟩
    rw [← htake, List.take_append_drop]

-- Nothing is lost at the end of the candidate: the pieces themselves show that there is room for them.
theorem room_of_spells (hlined : Lined slots) {s : Share} {ss : List Share}
    (hspells : Spells (textsOf slots) rest (s :: ss)) (hslot : slots[s.hump]? = some slot)
    : slot.before + rest.length ≤ roomOf slots := by
  induction ss generalizing s rest slot with
  | nil =>
    have hbegins := spells_singleton.mp hspells
    have hlen := hbegins.length_eq
    rw [begins_iff (getElem?_textsOf.mpr ⟨slot, hslot, rfl⟩)] at hbegins
    have := hlined.before_add_le_room hslot
    simp only [List.length_nil] at hlen
    omega
  | cons u us ih =>
    rcases spells_cons_cons.mp hspells with ⟨rest', hbegins, hlt, hrest⟩
    have hlen := hbegins.length_eq
    rw [begins_iff (getElem?_textsOf.mpr ⟨slot, hslot, rfl⟩)] at hbegins
    have hopens : Opens (textsOf slots) rest' .any u.hump := ⟨u, us, rfl, hrest, allows_any _ _⟩
    rcases hopens.getElem? with ⟨next, hnext⟩
    have := hlined.before_add_le hslot hnext hlt
    have := ih hrest hnext
    omega

-- Nor at its beginning: what fits before a hump, and a beginning of it, fit before every later hump.
theorem reaches_behind (size : Nat) (hlined : Lined slots) (hslot : slots[h]? = some slot)
    (hsize : size ≤ slot.text.length) (hreach : length ≤ slot.before + (size + rest.length))
    : ∀ later, h < later → Opens (textsOf slots) rest shape later → Reaches slots length rest later := by
  intro later hlt hopens
  rcases hopens.getElem? with ⟨next, hnext⟩
  have := hlined.before_add_le hslot hnext hlt
  exact ⟨next, hnext, by omega⟩

/-! ### Rows -/

def Start.allows (shape : Shape) (s : Start) : Bool :=
  match shape with
  | .any => true
  | .contiguous => s.contiguous
  | .toEnd => s.toEnd

def Offer.allows (shape : Shape) (o : Offer) : Bool :=
  match shape with
  | .any => o.any
  | .contiguous => o.contiguous
  | .toEnd => o.toEnd

/-- The row says of every hump that can be reached in which shapes the rest can start there. -/
def Row.Describes (slots : List Slot) (length : Nat) (rest : Text) : Row → Prop
  | .finished => rest = []
  | .starts list =>
    rest ≠ [] ∧ list.Pairwise (fun s u => s.hump < u.hump) ∧
      ∀ shape h, (∃ s ∈ list, s.hump = h ∧ s.allows shape = true)
        ↔ Reaches slots length rest h ∧ Opens (textsOf slots) rest shape h

def DescribeAll (slots : List Slot) (length : Nat) (pattern : Text) (rows : List Row) : Prop :=
  ∀ k, k ≤ pattern.length → ∃ row, rows[k]? = some row ∧ row.Describes slots length (pattern.drop k)

theorem offer_allows_finished {isLast : Bool}
    : (Row.finished.offer isLast h).allows shape = true ↔ (shape = .toEnd → isLast = true) := by
  cases shape with
  | any => simp [Row.offer, Offer.allows]
  | contiguous => simp [Row.offer, Offer.allows]
  | toEnd => simp [Row.offer, Offer.allows]

theorem any_next_iff {list : List Start} {p : Start → Bool} (hshape : shape ≠ .any)
    : (list.any fun s => s.hump == h + 1 && p s) = true
        ↔
      ∃ s ∈ list, h < s.hump ∧ (shape ≠ .any → s.hump = h + 1) ∧ p s = true := by
  rw [List.any_eq_true]
  apply exists_congr
  intro s
  apply and_congr_right
  intro _
  rw [Bool.and_eq_true, beq_iff_eq]
  constructor
  . rintro ⟨hhump, hp⟩
    exact ⟨by omega, fun _ => hhump, hp⟩
  . rintro ⟨_, hhump, hp⟩
    exact ⟨hhump hshape, hp⟩

theorem offer_allows_starts {isLast : Bool} {list : List Start}
    : ((Row.starts list).offer isLast h).allows shape = true
        ↔
      ∃ s ∈ list, h < s.hump ∧ (shape ≠ .any → s.hump = h + 1) ∧ s.allows shape = true := by
  cases shape with
  | any => simp [Row.offer, Offer.allows, Start.allows]
  | contiguous => exact any_next_iff Shape.noConfusion
  | toEnd => exact any_next_iff Shape.noConfusion

theorem Row.Describes.offer_allows {row : Row} (hrow : row.Describes slots length rest)
    (hreach : ∀ later, h < later → Opens (textsOf slots) rest shape later → Reaches slots length rest later)
    : (row.offer (h + 1 == slots.length) h).allows shape = true ↔ Follows (textsOf slots) rest shape h := by
  cases row with
  | finished =>
    cases hrow
    rw [offer_allows_finished]
    constructor
    . intro hlast
      exact .inl ⟨rfl, fun hshape => by simpa using hlast hshape⟩
    . rintro (⟨_, hlast⟩ | ⟨next, _, _, hopens⟩)
      . intro hshape
        simpa using hlast hshape
      . exact absurd hopens not_opens_nil
  | starts list =>
    rcases hrow with ⟨hne, _, hlist⟩
    rw [offer_allows_starts]
    constructor
    . rintro ⟨s, hs, hlt, hnext, hallows⟩
      exact .inr ⟨s.hump, hlt, hnext, ((hlist shape s.hump).mp ⟨s, hs, rfl, hallows⟩).2⟩
    . rintro (⟨hnil, _⟩ | ⟨next, hlt, hnext, hopens⟩)
      . exact absurd hnil hne
      . rcases (hlist shape next).mpr ⟨hreach next hlt hopens, hopens⟩ with ⟨s, hs, rfl, hallows⟩
        exact ⟨s, hs, hlt, hnext, hallows⟩

theorem either_allows (o p : Offer)
    : (o.either p).allows shape = (o.allows shape || p.allows shape) := by
  cases shape with
  | any => rfl
  | contiguous => rfl
  | toEnd => rfl

theorem nothing_allows : Offer.nothing.allows shape = false := by
  cases shape with
  | any => rfl
  | contiguous => rfl
  | toEnd => rfl

theorem offers_allows {isLast : Bool} {text : Text} {rows : List Row}
    : (offers isLast h pattern text rows).allows shape = true
        ↔
      ∃ k row, rows[k]? = some row ∧ k < pattern.length ∧ k < text.length ∧
        pattern.take (k + 1) = text.take (k + 1) ∧ (row.offer isLast h).allows shape = true := by
  induction pattern generalizing text rows with
  | nil => simp [offers, nothing_allows]
  | cons c cs ih =>
    cases text with
    | nil => simp [offers, nothing_allows]
    | cons d ds =>
      cases rows with
      | nil => simp [offers, nothing_allows]
      | cons row rows =>
        unfold offers
        split
        . next heq =>
          subst heq
          rw [either_allows, Bool.or_eq_true, ih]
          constructor
          . rintro (hrow | ⟨k, row', hrow', hk, hk', htake, hallows⟩)
            . exact ⟨0, row, rfl, Nat.succ_pos _, Nat.succ_pos _, rfl, hrow⟩
            . refine ⟨k + 1, row', hrow', Nat.succ_lt_succ hk, Nat.succ_lt_succ hk', ?_, hallows⟩
              rw [List.take_succ_cons, List.take_succ_cons, htake]
          . rintro ⟨k, row', hrow', hk, hk', htake, hallows⟩
            cases k with
            | zero =>
              cases hrow'
              exact .inl hallows
            | succ k =>
              rw [List.take_succ_cons, List.take_succ_cons] at htake
              exact .inr ⟨k, row', hrow', Nat.lt_of_succ_lt_succ hk, Nat.lt_of_succ_lt_succ hk',
                List.tail_eq_of_cons_eq htake, hallows⟩
        . next hne =>
          rw [nothing_allows]
          constructor
          . intro hfalse
            cases hfalse
          . rintro ⟨k, _, _, _, _, htake, _⟩
            rw [List.take_succ_cons, List.take_succ_cons] at htake
            exact absurd (List.head_eq_of_cons_eq htake) hne

theorem offers_opens (hlined : Lined slots) {c : Char} {cs : Text} {rows : List Row}
    (hrows : DescribeAll slots length cs rows) (hslot : slots[h]? = some slot)
    (hreach : length ≤ slot.before + (c :: cs).length)
    : (offers (h + 1 == slots.length) h (c :: cs) slot.text rows).allows shape = true
        ↔
      Opens (textsOf slots) (c :: cs) shape h := by
  have htext := getElem?_textsOf.mpr ⟨slot, hslot, rfl⟩
  have hbehind : ∀ {k : Nat}, k < slot.text.length → k ≤ cs.length → ∀ later, h < later
      → Opens (textsOf slots) (cs.drop k) shape later → Reaches slots length (cs.drop k) later := by
    intro k hk hle
    apply reaches_behind (k + 1) hlined hslot hk
    simp only [List.length_cons, List.length_drop] at hreach ⊢
    omega
  rw [offers_allows, opens_iff]
  constructor
  . rintro ⟨k, row, hrow, hk, hk', htake, hallows⟩
    have hk : k ≤ cs.length := Nat.le_of_lt_succ hk
    rcases hrows k hk with ⟨row', hrow', hdescribes⟩
    rw [hrow] at hrow'
    cases hrow'
    refine ⟨k + 1, cs.drop k, (begins_iff htext).mpr ⟨by omega, hk', by simpa using hk, htake, rfl⟩, ?_⟩
    exact (hdescribes.offer_allows (hbehind hk' hk)).mp hallows
  . rintro ⟨size, rest, hbegins, hfollows⟩
    rcases (begins_iff htext).mp hbegins with ⟨hpos, hle, hle', htake, rfl⟩
    cases size with
    | zero => omega
    | succ k =>
      have hk : k ≤ cs.length := Nat.le_of_lt_succ hle'
      rcases hrows k hk with ⟨row, hrow, hdescribes⟩
      refine ⟨k, row, hrow, hle', hle, htake, ?_⟩
      exact (hdescribes.offer_allows (hbehind hle hk)).mpr hfollows

theorem start?_eq_some {total : Nat} {rows : List Row} {slotCount : Nat} {s : Start}
    : start? slotCount length total pattern rows slot = some s
        ↔
      fits length total pattern.length slot = true ∧
        (offers (slot.index + 1 == slotCount) slot.index pattern slot.text rows).any = true ∧
        s.hump = slot.index ∧
        ∀ shape, s.allows shape =
          (offers (slot.index + 1 == slotCount) slot.index pattern slot.text rows).allows shape := by
  unfold start?
  generalize offers (slot.index + 1 == slotCount) slot.index pattern slot.text rows = o
  split
  . next hfits =>
    dsimp
    split
    . next hany =>
      simp only [hfits, hany, true_and, Option.some.injEq]
      constructor
      . rintro rfl
        refine ⟨rfl, ?_⟩
        intro shape
        cases shape with
        | any => exact hany.symm
        | contiguous => rfl
        | toEnd => rfl
      . rintro ⟨hhump, hallows⟩
        have hcontiguous := hallows .contiguous
        have htoEnd := hallows .toEnd
        cases s
        simp only [Start.allows, Offer.allows] at hhump hcontiguous htoEnd
        rw [hhump, hcontiguous, htoEnd]
    . next hany => simp [hany]
  . next hfits => simp [hfits]

theorem mem_starts (hlined : Lined slots) {c : Char} {cs : Text} {rows : List Row}
    (hrows : DescribeAll slots length cs rows) (shape : Shape) (h : Nat)
    : (∃ s ∈ slots.filterMap (start? slots.length length (roomOf slots) (c :: cs) rows),
        s.hump = h ∧ s.allows shape = true)
        ↔
      Reaches slots length (c :: cs) h ∧ Opens (textsOf slots) (c :: cs) shape h := by
  simp only [List.mem_filterMap]
  constructor
  . rintro ⟨s, ⟨slot, hmem, hstart⟩, rfl, hallows⟩
    rcases start?_eq_some.mp hstart with ⟨hfits, _, hhump, hshape⟩
    have hslot := hlined.getElem?_index hmem
    rw [fits, Bool.and_eq_true, decide_eq_true_eq, decide_eq_true_eq] at hfits
    rw [hhump]
    refine ⟨⟨slot, hslot, hfits.1⟩, ?_⟩
    rw [← offers_opens hlined hrows hslot hfits.1, ← hshape]
    exact hallows
  . rintro ⟨⟨slot, hslot, hreach⟩, hopens⟩
    have hindex := hlined.index_eq hslot
    have hany := (offers_opens hlined hrows hslot hreach).mpr hopens.any
    have hshape := (offers_opens hlined hrows hslot hreach).mpr hopens
    have hfits : fits length (roomOf slots) (c :: cs).length slot = true := by
      rcases hopens with ⟨s, ss, rfl, hspells, _⟩
      rw [fits, Bool.and_eq_true, decide_eq_true_eq, decide_eq_true_eq]
      exact ⟨hreach, room_of_spells hlined hspells hslot⟩
    subst hindex
    have hstart : start? slots.length length (roomOf slots) (c :: cs) rows slot = some
        ⟨slot.index,
          (offers (slot.index + 1 == slots.length) slot.index (c :: cs) slot.text rows).contiguous,
          (offers (slot.index + 1 == slots.length) slot.index (c :: cs) slot.text rows).toEnd⟩ := by
      unfold start?
      rw [if_pos hfits]
      exact if_pos hany
    rcases start?_eq_some.mp hstart with ⟨_, _, hhump, hallows⟩
    exact ⟨_, ⟨slot, List.mem_of_getElem? hslot, hstart⟩, hhump, (hallows shape).trans hshape⟩

theorem table_describes (hlined : Lined slots) (length : Nat) (pattern : Text)
    : DescribeAll slots length pattern (table slots length (roomOf slots) pattern) := by
  induction pattern with
  | nil =>
    intro k hk
    cases Nat.le_zero.mp hk
    exact ⟨.finished, rfl, rfl⟩
  | cons c cs ih =>
    intro k hk
    cases k with
    | zero =>
      refine ⟨_, rfl, List.cons_ne_nil c cs, ?_, mem_starts hlined ih⟩
      apply hlined.index_lt.filterMap
      intro slot later hlt s hs u hu
      rw [(start?_eq_some.mp hs).2.2.1, (start?_eq_some.mp hu).2.2.1]
      exact hlt
    | succ k => exact ih k (Nat.le_of_succ_le_succ hk)

end Spread
end IdentSearch
