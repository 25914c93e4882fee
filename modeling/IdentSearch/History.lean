/-!
Histories: what a state answers to one step after another, and what becomes of it.
-/

namespace IdentSearch.History

variable {σ ι α : Type}

def run (step : ι → σ → α × σ) : List ι → σ → List (α × σ)
  | [], _ => []
  | i :: is, s => step i s :: run step is (step i s).2

def after (step : ι → σ → α × σ) (is : List ι) (s : σ) : σ :=
  is.foldl (fun s i => (step i s).2) s

@[simp]
theorem after_nil (step : ι → σ → α × σ) (s : σ) : after step [] s = s := rfl

@[simp]
theorem after_cons (step : ι → σ → α × σ) (i : ι) (is : List ι) (s : σ)
    : after step (i :: is) s = after step is (step i s).2 := rfl

theorem after_append (step : ι → σ → α × σ) (is js : List ι) (s : σ)
    : after step (is ++ js) s = after step js (after step is s) := by
  simp [after]

end IdentSearch.History
