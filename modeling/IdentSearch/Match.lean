import IdentSearch.Kind
import IdentSearch.Span
import IdentSearch.Text.Quoted

/-!
Matches: how they compare, and how the matches of several parts of a pattern make up one.
-/

namespace IdentSearch

structure Match where
  kind : Kind
  punctuationStripped : Bool := false
  caseSensitive : Bool := true
  spans : Spans := []
deriving DecidableEq, Repr

namespace Match

def withSpans (m : Match) (spans : Spans) : Match :=
  ⟨m.kind, m.punctuationStripped, m.caseSensitive, spans⟩

/--
The order of matches, the better one first: the stronger kind, then the case-sensitive match unless case
is ignored, then the match that kept the punctuation.
-/
def compare (ignoreCase : Bool) (m n : Match) : Ordering :=
  if m.kind ≠ n.kind then
    if n.kind.rank < m.kind.rank then .lt else .gt
  else if !ignoreCase && m.caseSensitive != n.caseSensitive then
    if m.caseSensitive then .lt else .gt
  else if m.punctuationStripped != n.punctuationStripped then
    if m.punctuationStripped then .gt else .lt
  else .eq

structure SortKey where
  -- The negated rank of the kind.
  kind : Int
  caseDiffers : Bool
  stripped : Bool
deriving DecidableEq, Repr

def compareBool : Bool → Bool → Ordering
  | false, true => .lt
  | true, false => .gt
  | _, _ => .eq

def SortKey.compare (k l : SortKey) : Ordering :=
  if k.kind < l.kind then .lt
  else if l.kind < k.kind then .gt
  else (compareBool k.caseDiffers l.caseDiffers).then (compareBool k.stripped l.stripped)

def sortKey (ignoreCase : Bool) (m : Match) : SortKey :=
  ⟨-(m.kind.rank : Int), !ignoreCase && !m.caseSensitive, m.punctuationStripped⟩

/--
The match of two parts of a pattern together. It is as weak as its weaker part, agrees in case only if
both do, and covers what they cover.
-/
def merge (m n : Match) : Match :=
  ⟨m.kind.weaker n.kind, m.punctuationStripped || n.punctuationStripped,
    m.caseSensitive && n.caseSensitive, Spans.union m.spans n.spans⟩

def mergeAll : List Match → Option Match
  | [] => none
  | m :: ms => some (ms.foldl merge m)

end Match

inductive MergeStrategy
  | simple
  | container
deriving DecidableEq, Repr

namespace MergeStrategy

def ofName? : String → Option MergeStrategy
  | "simple" => some .simple
  | "container" => some .container
  | _ => none

end MergeStrategy

structure UnknownStrategy where
  name : String

def UnknownStrategy.message (e : UnknownStrategy) : String :=
  "Unknown merge strategy: " ++ String.ofList (Text.quoted e.name.toList)

namespace Match

/-- Merges matches by a strategy given by name. The name only matters once two matches meet. -/
def mergeAllBy (strategy : String) (ms : List Match) : Except UnknownStrategy (Option Match) :=
  if ms.length < 2 || (MergeStrategy.ofName? strategy).isSome then .ok (mergeAll ms)
  else .error ⟨strategy⟩

end Match
end IdentSearch
