import Mathlib.Data.List.Forall2

/-!
Computations that may fail, and the steps that they are put together from: which steps have succeeded if the
whole succeeds, and which one has failed if it fails.
-/

namespace Except

variable {ε ε' α β : Type} {x : Except ε α} {a : α} {b : β} {e : ε}

theorem bind_eq_ok {f : α → Except ε β} : x >>= f = .ok b ↔ ∃ a, x = .ok a ∧ f a = .ok b := by
  constructor
  . intro h
    cases x with
    | error e => cases h
    | ok a => exact ⟨a, rfl, h⟩
  . rintro ⟨a, rfl, h⟩
    exact h

theorem bind_eq_error {f : α → Except ε β}
    : x >>= f = .error e ↔ x = .error e ∨ ∃ a, x = .ok a ∧ f a = .error e := by
  constructor
  . intro h
    cases x with
    | error d =>
      cases h
      exact .inl rfl
    | ok a => exact .inr ⟨a, rfl, h⟩
  . rintro (rfl | ⟨a, rfl, h⟩)
    . rfl
    . exact h

theorem map_eq_ok {f : α → β} : x.map f = .ok b ↔ ∃ a, x = .ok a ∧ f a = b := by
  constructor
  . intro h
    cases x with
    | error e => cases h
    | ok a => exact ⟨a, rfl, ok.inj h⟩
  . rintro ⟨a, rfl, rfl⟩
    rfl

theorem map_eq_error {f : α → β} : x.map f = .error e ↔ x = .error e := by
  constructor
  . intro h
    cases x with
    | error d =>
      cases h
      rfl
    | ok a => cases h
  . rintro rfl
    rfl

theorem mapError_eq_ok {f : ε → ε'} : x.mapError f = .ok a ↔ x = .ok a := by
  constructor
  . intro h
    cases x with
    | error d => cases h
    | ok b =>
      cases h
      rfl
  . rintro rfl
    rfl

theorem mapError_eq_error {f : ε → ε'} {e : ε'} : x.mapError f = .error e ↔ ∃ d, x = .error d ∧ f d = e := by
  constructor
  . intro h
    cases x with
    | error d => exact ⟨d, rfl, error.inj h⟩
    | ok a => cases h
  . rintro ⟨d, rfl, rfl⟩
    rfl

theorem mapM_eq_ok {f : α → Except ε β} {xs : List α} {ys : List β}
    : xs.mapM f = .ok ys ↔ List.Forall₂ (fun x y => f x = .ok y) xs ys := by
  induction xs generalizing ys with
  | nil =>
    rw [List.mapM_nil, List.forall₂_nil_left_iff]
    constructor
    . intro h
      cases h
      rfl
    . rintro rfl
      rfl
  | cons x xs ih =>
    rw [List.mapM_cons, List.forall₂_cons_left_iff, bind_eq_ok]
    constructor
    . rintro ⟨y, hy, h⟩
      rcases bind_eq_ok.mp h with ⟨ys, hys, heq⟩
      cases heq
      exact ⟨y, ys, hy, ih.mp hys, rfl⟩
    . rintro ⟨y, ys, hy, hys, rfl⟩
      refine ⟨y, hy, ?_⟩
      rw [ih.mpr hys]
      rfl

end Except
