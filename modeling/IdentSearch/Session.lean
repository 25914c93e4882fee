import IdentSearch.Matcher

/-!
Matchers in use. While candidates come in, a matcher keeps their humps; it gives them up when it is
disposed, and then it answers no more.
-/

namespace IdentSearch

structure Session where
  matcher : Matcher
  cache : HumpCache := {}
  disposed : Bool := false

namespace Session

inductive Error
  | disposedSimple
  | disposedContainers
deriving DecidableEq, Repr

def strategyName : Strategy → String
  | .simple _ => "SimplePatternMatcher"
  | .containers _ _ => "ContainerPatternMatcher"

def Error.message : Error → String
  | disposedSimple => "SimplePatternMatcher has been disposed"
  | disposedContainers => "ContainerPatternMatcher has been disposed"

def disposedError (s : Session) : Error :=
  match s.matcher.strategy with
  | .simple _ => .disposedSimple
  | .containers _ _ => .disposedContainers

def start (m : Matcher) : Session := { matcher := m }

def withCache {α : Type} (step : StateM HumpCache α) (s : Session) : α × Session :=
  let (a, cache) := step s.cache
  (a, { s with cache := cache })

/-- The humps of a word, from the store if it keeps them. A disposed matcher computes them. -/
def wordHumps (word : Text) (s : Session) : Spans × Session :=
  s.withCache (HumpCache.get .words word)

def tryMatch (candidate : Option Text) (s : Session) : Except Error (Option Match) × Session :=
  if s.disposed then (.error s.disposedError, s)
  else
    let (r, s) := s.withCache (s.matcher.run (HumpCache.get .words) candidate)
    (.ok r, s)

def dispose (s : Session) : Session :=
  if s.disposed then s
  else
    let (_, s) := s.withCache HumpCache.close
    { s with disposed := true }

end Session
end IdentSearch
