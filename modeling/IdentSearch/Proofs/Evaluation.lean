import Mathlib.Tactic.Common

/-!
What it means that a computation has a value. The rules run in any monad, so what they find is stated once,
for every notion of value that goes through computations step by step.
-/

namespace IdentSearch

structure Evaluation (m : Type → Type) [Monad m] where
  HasValue : {α : Type} → m α → α → Prop
  pure : ∀ {α : Type} (v : α), HasValue (Pure.pure v) v
  bind : ∀ {α β : Type} {x : m α} {v : α} {f : α → m β} {w : β},
    HasValue x v → HasValue (f v) w → HasValue (x >>= f) w

namespace Evaluation

def effectFree (m : Type → Type) [Monad m] [LawfulMonad m] : Evaluation m where
  HasValue x v := x = Pure.pure v
  pure _ := rfl
  bind hx hf := by
    rw [hx, pure_bind]
    exact hf

def id : Evaluation Id where
  HasValue x v := Id.run x = v
  pure _ := rfl
  bind hx hf := by
    rw [← hx] at hf
    exact hf

end Evaluation
end IdentSearch
