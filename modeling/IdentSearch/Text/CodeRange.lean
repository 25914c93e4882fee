/-!
Rows of code points, the form in which the character properties are tabulated.
-/

namespace IdentSearch.Text

-- The code points `first`, `first + step`, … up to `last`.
structure CodeRange where
  first : Nat
  last : Nat
  step : Nat

namespace CodeRange

def contains (r : CodeRange) (code : Nat) : Bool :=
  decide (r.first ≤ code) && decide (code ≤ r.last) && (code - r.first) % r.step == 0

def anyContains (rs : List CodeRange) (code : Nat) : Bool := rs.any (·.contains code)

@[simp]
theorem contains_eq_true {r : CodeRange} {code : Nat}
    : r.contains code = true
        ↔
      (r.first ≤ code ∧ code ≤ r.last) ∧ (code - r.first) % r.step = 0 := by
  simp [contains]

end CodeRange
end IdentSearch.Text
