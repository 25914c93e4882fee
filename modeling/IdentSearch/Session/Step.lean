import IdentSearch.History
import IdentSearch.Ranking

/-!
What can be asked of a matcher in use, step by step.
-/

namespace IdentSearch.Session

inductive Step
  | tryMatch (candidate : Option Text)
  | rank (candidates : List (Option Text)) (limit : Option Int)
  | wordHumps (word : Text)
  | enter
  | leave
  | dispose
deriving DecidableEq, Repr

inductive Answer
  | result (r : Option Match)
  | ranking (rs : List Ranked)
  | humps (spans : Spans)
  | entered
  | done
deriving DecidableEq, Repr

def step : Step → Session → Except Error Answer × Session
  | .tryMatch c, s => ((s.tryMatch c).1.map .result, (s.tryMatch c).2)
  | .rank cs limit, s =>
    ((s.rank false cs limit neverCancelled).1.map .ranking, (s.rank false cs limit neverCancelled).2)
  | .wordHumps w, s => (.ok (.humps (s.wordHumps w).1), (s.wordHumps w).2)
  | .enter, s => (.ok .entered, s)
  | .leave, s => (.ok .done, s.dispose)
  | .dispose, s => (.ok .done, s.dispose)

end IdentSearch.Session
