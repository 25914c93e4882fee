import IdentSearch.HumpCache
import IdentSearch.History

/-!
What can be asked of a store of humps, step by step.
-/

namespace IdentSearch.HumpCache

inductive Step
  | get (t : Text)
  | contains (t : Text)
  | clear
  | close
deriving DecidableEq, Repr

inductive Answer
  | humps (spans : Spans)
  | contained (b : Bool)
  | released (n : Nat)
deriving DecidableEq, Repr

def step (b : Breaker) : Step → HumpCache → Answer × HumpCache
  | .get t, c => ((get b t c).1 |> .humps, (get b t c).2)
  | .contains t, c => (.contained (c.contains t), c)
  | .clear, c => (.released (clear c).1, (clear c).2)
  | .close, c => (.released (close c).1, (close c).2)

end IdentSearch.HumpCache
