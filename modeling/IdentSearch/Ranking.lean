import IdentSearch.Session
import IdentSearch.Text.Lowercase

/-!
Ranking: the candidates that match a pattern, the best first.
-/

namespace IdentSearch

structure Ranked where
  candidate : Text
  result : Match
deriving DecidableEq, Repr

namespace Ranked

def compare (ignoreCase : Bool) (r s : Ranked) : Ordering :=
  ((r.result.sortKey ignoreCase).compare (s.result.sortKey ignoreCase)).then
    ((Text.compare r.candidate.lowercase s.candidate.lowercase).then
      (Text.compare r.candidate s.candidate))

def sort (ignoreCase : Bool) (rs : List Ranked) : List Ranked :=
  rs.mergeSort fun r s => (r.compare ignoreCase s).isLE

/-- The items that a limit leaves. A negative limit takes items off the end. -/
def takeLimit {α : Type} (limit : Option Int) (items : List α) : List α :=
  match limit with
  | none => items
  | some n => if 0 ≤ n then items.take n.toNat else items.take (items.length - n.natAbs)

def groupByKind (rs : List Ranked) : List (Kind × List Ranked) :=
  rs.foldl add []
where
  add (groups : List (Kind × List Ranked)) (r : Ranked) : List (Kind × List Ranked) :=
    match groups with
    | [] => [(r.result.kind, [r])]
    | (k, items) :: rest =>
      if k = r.result.kind then (k, items ++ [r]) :: rest else (k, items) :: add rest r

end Ranked

namespace Session

-- Whether a ranking stops before the next candidate, by the number of candidates that were looked at.
abbrev Cancellation := Nat → Bool

def neverCancelled : Cancellation := fun _ => false

def cancelledAfter (n : Nat) : Cancellation := fun seen => decide (n ≤ seen)

def filterMatches (cancelled : Cancellation)
    : (seen : Nat) → List (Option Text) → Session → Except Error (List Ranked) × Session
  | _, [], s => (.ok [], s)
  | seen, c :: cs, s =>
    if cancelled seen then (.ok [], s)
    else match s.tryMatch c with
      | (.error e, s) => (.error e, s)
      | (.ok r, s) =>
        match filterMatches cancelled (seen + 1) cs s with
        | (.error e, s) => (.error e, s)
        | (.ok rest, s) =>
          match c, r with
          | some t, some m => (.ok (⟨t, m⟩ :: rest), s)
          | _, _ => (.ok rest, s)

/--
The candidates that match, the best first and as many as a limit leaves. The ranking may be cancelled; then
the candidates that were looked at are ranked.
-/
def rank (ignoreCase : Bool) (candidates : List (Option Text)) (limit : Option Int)
    (cancelled : Cancellation) (s : Session) : Except Error (List Ranked) × Session :=
  let (answer, s) := filterMatches cancelled 0 candidates s
  (answer.map fun rs => Ranked.takeLimit limit (Ranked.sort ignoreCase rs), s)

def selectBest (ignoreCase : Bool) (candidates : List (Option Text)) (s : Session)
    : Except Error (Option Ranked) × Session :=
  let (answer, s) := s.rank ignoreCase candidates (some 1) neverCancelled
  (answer.map (·.head?), s)

end Session

def filterCandidates (pattern : Option Text) (candidates : List (Option Text)) (options : Option Options)
    (limit : Option Int) : Except Matcher.Error (Except Session.Error (List Ranked)) := do
  let m ← Matcher.create pattern (some (options.getD {}))
  return ((Session.start m).rank false candidates limit Session.neverCancelled).1

/--
A candidate with markers around the characters of each span. Spans that start inside an earlier one are
passed over.
-/
def highlight (candidate : Text) (spans : Spans) (opening closing : Text) : Text :=
  go 0 spans.sort
where
  go (position : Nat) : Spans → Text
    | [] => candidate.drop position
    | s :: ss =>
      if s.start < position then go position ss
      else
        candidate.slice position (s.start - position) ++ opening ++ s.textOf candidate ++ closing
          ++ go s.stop ss

end IdentSearch
