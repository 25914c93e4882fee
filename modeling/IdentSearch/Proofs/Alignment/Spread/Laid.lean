import Mathlib.Data.List.Chain
import IdentSearch.Proofs.Alignment.Spread.Optimality
import IdentSearch.Proofs.Alignment.Spelling

/-!
The alignment of a chunk without capitals reads the chunk without regard to case: every share lies on the
beginning of its hump.
-/

namespace IdentSearch.Spread

variable {slots : List Slot} {pattern : Text} {shares : List (Slot × Nat)}

def Kept (slots : List Slot) (shares : List (Slot × Nat)) : Prop :=
  ∀ p ∈ shares, slots[p.1.index]? = some p.1

theorem begins_of_kept {p : Slot × Nat} {rest : Text} (hp : slots[p.1.index]? = some p.1)
    (h : Begins (textsOf slots) pattern (shareOf p) rest)
    : p.2 ≤ p.1.text.length ∧ pattern = p.1.text.take p.2 ++ rest := by
  rcases h with ⟨text, htext, _, hle, hpattern⟩
  have hslot : (textsOf slots)[p.1.index]? = some p.1.text := getElem?_textsOf.mpr ⟨p.1, hp, rfl⟩
  rw [shareOf, hslot] at htext
  cases htext
  exact ⟨hle, hpattern⟩

theorem Spells.pieces_of_kept (h : Spells (textsOf slots) pattern (shares.map shareOf))
    (hkept : Kept slots shares)
    : (∀ p ∈ shares, p.2 ≤ p.1.text.length) ∧
        (shares.map fun p => p.1.text.take p.2).flatten = pattern := by
  induction shares generalizing pattern with
  | nil => exact absurd rfl h.nonempty
  | cons p ps ih =>
    have hp := hkept p List.mem_cons_self
    cases ps with
    | nil =>
      rcases begins_of_kept hp (spells_singleton.mp h) with ⟨hle, hpattern⟩
      constructor
      . simpa using hle
      . simpa using hpattern.symm
    | cons q qs =>
      rcases spells_cons_cons.mp h with ⟨rest, hbegins, _, hspells⟩
      rcases begins_of_kept hp hbegins with ⟨hle, hpattern⟩
      have hrest := ih hspells fun r hr => hkept r (List.mem_cons_of_mem p hr)
      constructor
      . intro r hr
        rcases List.mem_cons.mp hr with rfl | hr
        . exact hle
        . exact hrest.1 r hr
      . rw [List.map_cons, List.flatten_cons, hrest.2, hpattern]

theorem Spells.index_lt (h : Spells (textsOf slots) pattern (shares.map shareOf))
    : shares.Pairwise fun p q => p.1.index < q.1.index := by
  have hincreasing := h.increasing
  rw [List.isChain_map] at hincreasing
  have hindices : (shares.map (·.1.index)).IsChain (· < ·) := by
    rw [List.isChain_map]
    exact hincreasing
  exact List.pairwise_map.mp hindices.pairwise

def pieceOf (p : Slot × Nat) : LaidPiece :=
  ⟨⟨p.1.start, p.1.text.length⟩, p.1.text.take p.2⟩

section
variable {f : Folding} {candidate : Text} {humps : Spans} (hhumps : Spans.InOrder candidate humps)
include hhumps

theorem getElem?_ofHumps {i : Nat} {slot : Slot} (h : (Slot.ofHumps f candidate humps)[i]? = some slot)
    : humps[i]? = some ⟨slot.start, slot.text.length⟩ ∧
        f.fold ((⟨slot.start, slot.text.length⟩ : Span).textOf candidate) = slot.text := by
  rcases (Slot.ofHumps.go_getElem? f candidate humps h).2.2 with ⟨s, hs, hstart, htext⟩
  have hspan : (⟨slot.start, slot.text.length⟩ : Span) = s := by
    rw [hstart, htext, ← Folding.view_true, Folding.length_view]
    exact hhumps.span_eq (List.mem_of_getElem? hs)
  rw [hspan]
  exact ⟨hs, htext.symm⟩

theorem Spells.laid (h : Spells (textsOf (Slot.ofHumps f candidate humps)) pattern (shares.map shareOf))
    (hkept : Kept (Slot.ofHumps f candidate humps) shares)
    : Laid f true candidate (shares.map pieceOf) := by
  have hspan : ∀ p ∈ shares, humps[p.1.index]? = some (pieceOf p).hump :=
    fun p hp => (getElem?_ofHumps hhumps (hkept p hp)).1
  constructor
  . rw [List.map_map]
    constructor
    . rw [List.pairwise_map]
      apply h.index_lt.imp_of_mem
      intro p q hp hq hlt
      rcases List.getElem?_eq_some_iff.mp (hspan p hp) with ⟨hi, hp'⟩
      rcases List.getElem?_eq_some_iff.mp (hspan q hq) with ⟨hj, hq'⟩
      have hordered := List.pairwise_iff_getElem.mp hhumps.ordered _ _ hi hj hlt
      rw [hp', hq'] at hordered
      exact hordered
    . intro s hs
      rcases List.mem_map.mp hs with ⟨p, hp, rfl⟩
      exact hhumps.inside _ (List.mem_of_getElem? (hspan p hp))
  . intro piece hpiece
    rcases List.mem_map.mp hpiece with ⟨p, hp, rfl⟩
    unfold pieceOf
    rw [Folding.view_true, (getElem?_ofHumps hhumps (hkept p hp)).2]
    exact List.take_prefix p.2 p.1.text

theorem align_spells {chunk : Chunk} {a : Alignment} (h : align f candidate humps chunk = some a)
    : a.Spells f true candidate chunk.text := by
  rcases align_spec f candidate humps chunk with ⟨hnone, _⟩ | ⟨s, shares, hsome, hfound⟩
  . rw [hnone] at h
    cases h
  . rw [hsome] at h
    cases h
    have hspells := hfound.traced.spells
    have hpieces := hspells.pieces_of_kept hfound.traced.slots_mem
    have hlaid := hspells.laid hhumps hfound.traced.slots_mem
    have hspans : spansOf shares = (shares.map pieceOf).map (·.span) := by
      rw [spansOf, List.map_map]
      apply List.map_congr_left
      intro p hp
      have hlen := List.length_take_of_le (hpieces.1 p hp)
      simp [pieceOf, LaidPiece.span, hpieces.1 p hp]
    rw [hspans]
    constructor
    . intro i hi
      exact hlaid.lt_length_of_covers hi
    . dsimp only
      rw [hlaid.view_read, List.map_map]
      exact hpieces.2

end

end IdentSearch.Spread
