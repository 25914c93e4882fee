import IdentSearch.Proofs.Evaluation
import IdentSearch.Proofs.HumpCache.Lookup

/-!
A store that keeps word humps does not change what is computed with it: from a store whose humps are right,
a computation returns the value that it has without a store, and the humps are still right after it.
-/

namespace IdentSearch

namespace HumpCache

def Coherent (c : HumpCache) : Prop := ∀ p ∈ c.entries, p.2 = wordHumps p.1

theorem coherent_of_entries_eq_nil {c : HumpCache} (h : c.entries = []) : c.Coherent := by
  intro p hp
  rw [h] at hp
  cases hp

theorem Coherent.find?_eq {c : HumpCache} (h : c.Coherent) {t : Text} {spans : Spans}
    (hfind : c.find? t = some spans) : spans = wordHumps t :=
  h (t, spans) (mem_of_find?_eq_some hfind)

/-- From every coherent store a computation returns a value and leaves a coherent store. -/
def Yields {α : Type} (x : StateM HumpCache α) (v : α) : Prop :=
  ∀ c : HumpCache, c.Coherent → (x c).1 = v ∧ (x c).2.Coherent

theorem yields_pure {α : Type} (v : α) : Yields (pure v) v := by
  intro c hc
  exact ⟨rfl, hc⟩

theorem Yields.bind {α β : Type} {x : StateM HumpCache α} {v : α} {f : α → StateM HumpCache β} {w : β}
    (hx : Yields x v) (hf : Yields (f v) w) : Yields (x >>= f) w := by
  intro c hc
  rcases hx c hc with ⟨hvalue, hcoherent⟩
  have hrun : (x >>= f) c = f (x c).1 (x c).2 := rfl
  rw [hrun, hvalue]
  apply hf
  exact hcoherent

def evaluation : Evaluation (StateM HumpCache) where
  HasValue := Yields
  pure := yields_pure
  bind := Yields.bind

theorem yields_store (t : Text) : Yields (store t (wordHumps t)) (wordHumps t) := by
  intro c hc
  unfold store
  split
  . exact ⟨rfl, hc⟩
  . split
    . next kept hfind => exact ⟨hc.find?_eq hfind, hc⟩
    . refine ⟨rfl, ?_⟩
      intro p hp
      rcases List.mem_append.mp hp with hp | hp
      . exact hc p hp
      . rw [List.mem_singleton.mp hp]

theorem yields_compute (t : Text) : Yields (compute .words t) (wordHumps t) := by
  intro c hc
  exact ⟨rfl, hc⟩

theorem yields_get (t : Text) : Yields (get .words t) (wordHumps t) := by
  intro c hc
  cases hfind : c.find? t with
  | some spans =>
    rw [get_of_find?_eq_some hfind]
    exact ⟨hc.find?_eq hfind, hc⟩
  | none =>
    rw [get_of_find?_eq_none hfind]
    exact ⟨rfl, missed_right hc⟩

end HumpCache
end IdentSearch
