import IdentSearch.Alignment
import IdentSearch.Chunk

/-!
The alignment of a chunk that was typed with capitals. Every hump of the chunk, such as `Co`, `Fi` and
`Pro` in `CoFiPro`, must be the beginning of a hump of the candidate, and each one is placed on the first
candidate hump that takes it.
-/

namespace IdentSearch

structure Hump where
  start : Nat
  text : Text
deriving DecidableEq, Repr

namespace Hump

def ofSpan (t : Text) (s : Span) : Hump := ⟨s.start, s.textOf t⟩

end Hump

structure Placement where
  hump : Hump
  taken : List Text

namespace Placement

def isEmpty (p : Placement) : Bool := p.taken.isEmpty

def span (p : Placement) : Span := ⟨p.hump.start, p.taken.flatten.length⟩

end Placement

namespace Greedy

def startsUpper (t : Text) : Bool := t.head?.any Text.isUpper

/--
The pattern humps that the rest of a candidate hump takes, and those that are left. After a first one,
named `previous`, it takes another only if both begin with a capital: `UI` takes `U` and `I`.
-/
def absorb (f : Folding) (ignoreCase : Bool)
    : (rest : Text) → (previous : Option Text) → List Text → List Text × List Text
  | _, _, [] => ([], [])
  | rest, previous, p :: ps =>
    if (previous.all fun q => startsUpper q && startsUpper p) && f.startsWith ignoreCase rest p then
      let (taken, left) := absorb f ignoreCase (rest.drop p.length) (some p) ps
      (p :: taken, left)
    else ([], p :: ps)

/--
What each candidate hump takes, up to the one that takes the last hump of the pattern. There is no answer
when some of the pattern is left over.
-/
def place (f : Folding) (ignoreCase : Bool) : List Hump → List Text → Option (List Placement)
  | _, [] => some []
  | [], _ :: _ => none
  | h :: hs, p :: ps =>
    let (taken, left) := absorb f ignoreCase h.text none (p :: ps)
    (place f ignoreCase hs left).map (⟨h, taken⟩ :: ·)

def summarize (humpCount : Nat) (ps : List Placement) : Alignment where
  fromStart := ps.head?.any fun p => !p.isEmpty
  contiguous := (ps.dropWhile (·.isEmpty)).all fun p => !p.isEmpty
  toEnd := ps.length == humpCount
  spans := (ps.filter fun p => !p.isEmpty).map (·.span)

def align (f : Folding) (ignoreCase : Bool) (candidate : Text) (humps : Spans) (chunk : Chunk)
    : Option Alignment :=
  if chunk.humps.isEmpty then none
  else
    (place f ignoreCase (humps.map (Hump.ofSpan candidate)) chunk.humpTexts).map
      (summarize humps.length)

end Greedy
end IdentSearch
