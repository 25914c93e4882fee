import Mathlib.Data.List.Nodup
import IdentSearch.HumpCache

/-!
What one request for humps makes of a store, whether the humps are kept, have to be computed, or close the
store while they are computed.
-/

namespace IdentSearch.HumpCache

def texts (c : HumpCache) : List Text := c.entries.map (·.1)

def missed (b : Breaker) (t : Text) (c : HumpCache) : HumpCache where
  entries :=
    if b.closesOn t then [] else if c.closed then c.entries else c.entries ++ [(t, b.humps t)]
  hits := c.hits
  misses := c.misses + 1
  computed := c.computed + 1
  closed := c.closed || b.closesOn t

variable {b : Breaker} {t : Text} {c : HumpCache} {spans : Spans}

theorem size_eq_length_texts (c : HumpCache) : c.size = c.texts.length := by
  simp [size, texts]

theorem mem_of_find?_eq_some (h : c.find? t = some spans) : (t, spans) ∈ c.entries := by
  rcases List.lookup_eq_some_iff.mp h with ⟨before, after, heq, _⟩
  rw [heq]
  simp

theorem find?_eq_none_iff : c.find? t = none ↔ t ∉ c.texts := by
  rw [find?, List.lookup_eq_none_iff, texts, List.mem_map]
  constructor
  . rintro h ⟨p, hp, rfl⟩
    have := h p hp
    simp at this
  . intro h p hp
    rw [bne_iff_ne]
    rintro rfl
    exact h ⟨p, hp, rfl⟩

theorem contains_iff : c.contains t = true ↔ t ∈ c.texts := by
  rw [contains, Option.isSome_iff_ne_none, ne_eq, find?_eq_none_iff, not_not]

theorem store_of_closed (h : c.closed = true) : store t spans c = (spans, c) := if_pos h

theorem store_of_find?_eq_none (hopen : c.closed = false) (h : c.find? t = none)
    : store t spans c = (spans, { c with entries := c.entries ++ [(t, spans)] }) := by
  unfold store
  rw [if_neg (Bool.eq_false_iff.mp hopen), h]

theorem get_of_find?_eq_some (h : c.find? t = some spans)
    : get b t c = (spans, { c with hits := c.hits + 1 }) := by
  simp only [get, lookup, h, bind, StateT.bind]
  rfl

theorem get_of_find?_eq_none (h : c.find? t = none) : get b t c = (b.humps t, c.missed b t) := by
  have hget : get b t c
      = store t (b.humps t) (compute b t { c with misses := c.misses + 1 }).2 := by
    simp only [get, lookup, h, bind, StateT.bind]
    rfl
  rw [hget]
  unfold compute missed
  dsimp only
  cases hcloses : b.closesOn t with
  | true =>
    rw [if_pos rfl, if_pos rfl, Bool.or_true]
    apply store_of_closed
    rfl
  | false =>
    rw [if_neg Bool.false_ne_true, if_neg Bool.false_ne_true, Bool.or_false]
    cases hclosed : c.closed with
    | true =>
      rw [if_pos rfl]
      apply store_of_closed
      rfl
    | false =>
      rw [if_neg Bool.false_ne_true]
      apply store_of_find?_eq_none
      . rfl
      . exact h

theorem missed_right (h : ∀ p ∈ c.entries, p.2 = b.humps p.1)
    : ∀ p ∈ (c.missed b t).entries, p.2 = b.humps p.1 := by
  unfold missed
  dsimp only
  split
  . intro p hp
    cases hp
  . split
    . exact h
    . intro p hp
      rcases List.mem_append.mp hp with hp | hp
      . exact h p hp
      . rw [List.mem_singleton.mp hp]

/-! ### Humps that are stored after a miss -/

section
variable (hopen : c.closed = false) (hcloses : b.closesOn t = false)
include hopen hcloses

theorem missed_entries : (c.missed b t).entries = c.entries ++ [(t, b.humps t)] := by
  simp [missed, hopen, hcloses]

theorem missed_texts : (c.missed b t).texts = c.texts ++ [t] := by
  simp [texts, missed_entries hopen hcloses]

theorem missed_distinct (h : c.texts.Nodup) (ht : t ∉ c.texts) : (c.missed b t).texts.Nodup := by
  rw [missed_texts hopen hcloses]
  apply List.Nodup.append h (List.nodup_singleton t)
  rw [List.disjoint_singleton]
  exact ht

end

end IdentSearch.HumpCache
