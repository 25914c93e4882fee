import IdentSearch.Cascade
import IdentSearch.Proofs.Checked.Hump
import IdentSearch.Proofs.HumpCache.Coherence

/-!
Checked computations with a store of humps. One performs another that cannot go wrong if, from every store
with right humps, it ends without a fault with the same value and the same store.
-/

namespace IdentSearch.Checked

abbrev Run := ExceptT Fault (StateM HumpCache)

def Performs {α : Type} (x : Run α) (y : StateM HumpCache α) : Prop :=
  ∀ c : HumpCache, c.Coherent → x.run c = (.ok (y c).1, (y c).2) ∧ (y c).2.Coherent

section
variable {α β : Type} {x : Run α} {y : StateM HumpCache α} {f : α → Run β} {g : α → StateM HumpCache β}

theorem performs_pure (v : α) : Performs (pure v) (pure v) := by
  intro c hc
  exact ⟨rfl, hc⟩

theorem bind_run (x : Run α) (f : α → Run β) (c : HumpCache)
    : (x >>= f).run c
        =
      match x.run c with
      | (.ok v, c) => (f v).run c
      | (.error e, c) => (.error e, c) := by
  rw [ExceptT.run_bind]
  simp only [Bind.bind, StateT.bind]
  rcases x.run c with ⟨r, c'⟩
  cases r with
  | ok v => rfl
  | error e => rfl

theorem Performs.bind_of {P : α → Prop} (hx : Performs x y) (hP : ∀ c : HumpCache, c.Coherent → P (y c).1)
    (hf : ∀ v, P v → Performs (f v) (g v)) : Performs (x >>= f) (y >>= g) := by
  intro c hc
  rcases hx c hc with ⟨hrun, hcoherent⟩
  rw [bind_run, hrun]
  exact hf (y c).1 (hP c hc) (y c).2 hcoherent

theorem Performs.bind (hx : Performs x y) (hf : ∀ v, Performs (f v) (g v)) : Performs (x >>= f) (y >>= g) := by
  apply hx.bind_of (P := fun _ => True)
  . intro _ _
    trivial
  . intro v _
    exact hf v

theorem Performs.bind_yields {v : α} (hx : Performs x y) (hy : HumpCache.Yields y v)
    (hf : Performs (f v) (g v)) : Performs (x >>= f) (y >>= g) := by
  apply hx.bind_of (P := (· = v))
  . intro c hc
    exact (hy c hc).1
  . rintro _ rfl
    exact hf

theorem performs_lift_bind {e : Except Fault α} {v : α} {z : StateM HumpCache β} (he : e = .ok v)
    (hf : Performs (f v) z) : Performs (liftM e >>= f) z := by
  subst he
  intro c hc
  rw [bind_run]
  exact hf c hc

theorem performs_lift {e : Except Fault α} {v : α} (he : e = .ok v) : Performs (liftM e) (pure v) := by
  subst he
  exact performs_pure v

theorem Performs.orTry {α : Type} (answer : Option α) {x : Run (Option α)}
    {y : StateM HumpCache (Option α)} (h : Performs x y)
    : Performs (orTry answer x) (orTry answer y) := by
  cases answer with
  | some a => exact performs_pure (some a)
  | none => exact h

end

/-! ### The store -/

def compute (t : Text) : Run Spans := do
  modify fun c => { c with computed := c.computed + 1 }
  humps .words t

def get (t : Text) : Run Spans := do
  match ← HumpCache.lookup t with
  | some spans => return spans
  | none => HumpCache.store t (← compute t)

theorem performs_compute (t : Text) : Performs (compute t) (HumpCache.compute .words t) := by
  intro c hc
  have hrun : (compute t).run c
      = (humps .words t, { c with computed := c.computed + 1 }) := rfl
  rw [hrun, humps_eq_ok]
  exact ⟨rfl, hc⟩

theorem performs_liftM {α : Type} {y : StateM HumpCache α}
    (hcoherent : ∀ c : HumpCache, c.Coherent → (y c).2.Coherent)
    : Performs (liftM y) y := by
  intro c hc
  exact ⟨rfl, hcoherent c hc⟩

theorem coherent_lookup (t : Text) (c : HumpCache) (hc : c.Coherent)
    : (HumpCache.lookup t c).2.Coherent := by
  unfold HumpCache.lookup
  split
  . exact hc
  . exact hc

theorem performs_get (t : Text) : Performs (get t) (HumpCache.get .words t) := by
  apply (performs_liftM (coherent_lookup t)).bind
  intro kept
  cases kept with
  | some spans => exact performs_pure spans
  | none =>
    apply (performs_compute t).bind_yields (HumpCache.yields_compute t)
    apply performs_liftM
    intro c hc
    exact (HumpCache.yields_store t c hc).2

end IdentSearch.Checked
