import IdentSearch.Proofs.HumpCache.Coherence

/-!
How an open store of word humps grows: each miss adds the humps of one text, so that its size is the number
of misses, and a computation adds humps of the texts only that it asks for.
-/

namespace IdentSearch.HumpCache

structure Sound (c : HumpCache) : Prop where
  isOpen : c.closed = false
  coherent : c.Coherent
  distinct : c.texts.Nodup
  size_eq : c.size = c.misses

def AddsOnly (added : Text → Prop) (c c' : HumpCache) : Prop := ∀ t ∈ c'.texts, t ∈ c.texts ∨ added t

variable {added : Text → Prop} {c c' c'' : HumpCache}

theorem addsOnly_refl (added : Text → Prop) (c : HumpCache) : AddsOnly added c c := by
  intro t ht
  exact .inl ht

theorem AddsOnly.trans (h : AddsOnly added c c') (h' : AddsOnly added c' c'') : AddsOnly added c c'' := by
  intro t ht
  rcases h' t ht with ht | ht
  . exact h t ht
  . exact .inr ht

theorem sound_empty : Sound {} := by
  constructor
  . rfl
  . exact coherent_of_entries_eq_nil rfl
  . exact List.nodup_nil
  . rfl

/-- From every sound store a computation returns a value and leaves a sound one that it added little to. -/
def YieldsAdding (added : Text → Prop) {α : Type} (x : StateM HumpCache α) (v : α) : Prop :=
  ∀ c : HumpCache, c.Sound → (x c).1 = v ∧ (x c).2.Sound ∧ AddsOnly added c (x c).2

def evaluationAdding (added : Text → Prop) : Evaluation (StateM HumpCache) where
  HasValue := YieldsAdding added
  pure v c hc := ⟨rfl, hc, addsOnly_refl added c⟩
  bind {_ _ x v f w} hx hf c hc := by
    rcases hx c hc with ⟨hvalue, hsound, hadds⟩
    have hrun : (x >>= f) c = f (x c).1 (x c).2 := rfl
    rw [hrun, hvalue]
    rcases hf (x c).2 hsound with ⟨hvalue', hsound', hadds'⟩
    exact ⟨hvalue', hsound', hadds.trans hadds'⟩

theorem Sound.missed (h : c.Sound) {t : Text} (ht : t ∉ c.texts) : (c.missed .words t).Sound := by
  constructor
  . exact (Bool.or_false _).trans h.isOpen
  . exact missed_right h.coherent
  . exact missed_distinct h.isOpen rfl h.distinct ht
  . rw [size_eq_length_texts, missed_texts h.isOpen rfl, List.length_append, ← size_eq_length_texts, h.size_eq]
    rfl

theorem yieldsAdding_get {t : Text} (ht : added t) : YieldsAdding added (get .words t) (wordHumps t) := by
  intro c hc
  refine ⟨(yields_get t c hc.coherent).1, ?_⟩
  cases hfind : c.find? t with
  | some spans =>
    rw [get_of_find?_eq_some hfind]
    exact ⟨⟨hc.isOpen, hc.coherent, hc.distinct, hc.size_eq⟩, addsOnly_refl added c⟩
  | none =>
    rw [get_of_find?_eq_none hfind]
    constructor
    . exact hc.missed (find?_eq_none_iff.mp hfind)
    . intro u hu
      dsimp only at hu
      rw [missed_texts hc.isOpen rfl] at hu
      rcases List.mem_append.mp hu with hu | hu
      . exact .inl hu
      . right
        rw [List.mem_singleton.mp hu]
        exact ht

end IdentSearch.HumpCache
