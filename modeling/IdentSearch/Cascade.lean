import IdentSearch.Match
import IdentSearch.Alignment.Greedy
import IdentSearch.Alignment.Spread
import IdentSearch.HumpCache

/-!
The rules by which a chunk of a pattern is looked for in a candidate. They are tried from the strongest
to the weakest and the first one that applies decides.

A candidate is a part of a longer text, and its offset is the position at which it starts there. Spans are
therefore shifted and never moved out of the text: see `Span.move_natCast` and `Alignment.move_natCast`.

The rules ask for the humps of the candidate only when they need them. They do so in any monad: in
`StateM HumpCache` the humps come from a store, and in `Id` they are computed on the spot.
-/

namespace IdentSearch

structure Settings where
  folding : Folding
  includeSpans : Bool
  allowFuzzy : Bool
  allowSubstring : Bool

structure Attempt where
  settings : Settings
  candidate : Text
  offset : Nat
  chunk : Chunk
  stripped : Bool

def orTry {m : Type → Type} [Monad m] {α : Type} (answer : Option α) (weaker : m (Option α))
    : m (Option α) :=
  match answer with
  | some a => pure (some a)
  | none => weaker

namespace Attempt

def found (a : Attempt) (kind : Kind) (caseSensitive : Bool) (spans : Spans) : Match :=
  ⟨kind, a.stripped, caseSensitive, if a.settings.includeSpans then spans else []⟩

def spanAt (a : Attempt) (position : Nat) : Span := ⟨a.offset + position, a.chunk.text.length⟩

def partStarts (a : Attempt) (ignoreCase : Bool) (part : Span) : Bool :=
  a.settings.folding.partStartsWith ignoreCase a.candidate part a.chunk.text
    ⟨0, a.chunk.text.length⟩

def substringAt (a : Attempt) (position : Nat) : Match :=
  a.found .substring (a.partStarts false ⟨position, a.chunk.text.length⟩) [a.spanAt position]

def index (a : Attempt) (ignoreCase : Bool) : Option Nat :=
  a.settings.folding.indexOf ignoreCase a.candidate a.chunk.text

def atBeginning (a : Attempt) : Option Match :=
  if a.index true = some 0 then
    if a.chunk.text.length = a.candidate.length then
      some (a.found .exact (a.candidate == a.chunk.text) [⟨a.offset, a.candidate.length⟩])
    else
      some (a.found .beginning (a.settings.folding.startsWith false a.candidate a.chunk.text)
        [⟨a.offset, a.chunk.text.length⟩])
  else none

def anywhere (a : Attempt) : Option Match :=
  if a.settings.allowSubstring then (a.index true).map a.substringAt else none

def atPunctuation (a : Attempt) (position : Nat) : Option Match :=
  if (a.candidate[position - 1]?).any Text.isPunctuation || a.chunk.text.head?.any Text.isPunctuation then
    some (a.substringAt position)
  else none

def atHump (a : Attempt) (humps : Spans) : Option Match :=
  (humps.find? (a.partStarts true)).map fun s =>
    a.found .substring (a.partStarts false s) [a.spanAt s.start]

def literally (a : Attempt) : Option Match :=
  match a.index false with
  | some (n + 1) => some (a.found .substring true [a.spanAt (n + 1)])
  | _ => none

def aligned (a : Attempt) (caseSensitive : Bool) (alignment : Alignment) : Match :=
  a.found alignment.kind caseSensitive (alignment.shift a.offset).spans

/-- The chunk lies on humps of the candidate. One that was typed with capitals is first taken literally. -/
def onHumps (a : Attempt) (humps : Spans) : Option Match :=
  let f := a.settings.folding
  if a.chunk.isLowercase then
    (Spread.align f a.candidate humps a.chunk).map (a.aligned false)
  else
    match Greedy.align f false a.candidate humps a.chunk with
    | some alignment => some (a.aligned true alignment)
    | none => (Greedy.align f true a.candidate humps a.chunk).map (a.aligned false)

def onCapital (a : Attempt) : Option Match :=
  match a.index true with
  | some position =>
    if a.chunk.isLowercase && decide (a.chunk.text.length < a.candidate.length)
        && (a.candidate[position]?).any Text.isUpper then
      some (a.found .substring false [a.spanAt position])
    else none
  | none => none

section
variable {m : Type → Type} [Monad m] (humpsOf : Text → m Spans)

def insideLowercase (a : Attempt) : m (Option Match) :=
  match a.index true with
  | some position =>
    orTry (a.atPunctuation position) do return a.atHump (← humpsOf a.candidate)
  | none => return none

def inside (a : Attempt) : m (Option Match) :=
  if a.chunk.isLowercase then a.insideLowercase humpsOf else return a.literally

def run (a : Attempt) : m (Option Match) := do
  orTry a.atBeginning <|
    orTry a.anywhere do
      orTry (← a.inside humpsOf) do
        orTry (a.onHumps (← humpsOf a.candidate)) (return a.onCapital)

end

def fuzzily (a : Attempt) : Option Match :=
  if a.settings.allowFuzzy && (a.chunk.similarity a.settings.folding).accepts a.candidate then
    some ⟨.fuzzy, a.stripped, false, []⟩
  else none

end Attempt

def Match.ofAll {m : Type → Type} [Monad m] {α : Type} (find : α → m (Option Match))
    : List α → m (Option (List Match))
  | [] => return some []
  | a :: as => do
    match ← find a with
    | none => return none
    | some r => return (← ofAll find as).map (r :: ·)

namespace Segment

def attempt (settings : Settings) (candidate : Text) (offset : Nat) (stripped : Bool) (c : Chunk)
    : Attempt :=
  ⟨settings, candidate, offset, c, stripped⟩

/--
The match of a segment: as a whole, or else word by word without its punctuation. `find` looks for a chunk
and is told whether punctuation was left out.
-/
def findWith {m : Type → Type} [Monad m] (s : Segment) (find : Bool → Chunk → m (Option Match))
    : m (Option Match) := do
  orTry (← find false s.total) do
    return (← Match.ofAll (find true) s.words).bind Match.mergeAll

def run {m : Type → Type} [Monad m] (humpsOf : Text → m Spans) (settings : Settings) (s : Segment)
    (candidate : Text) (offset : Nat) : m (Option Match) :=
  s.findWith fun stripped c => (attempt settings candidate offset stripped c).run humpsOf

def fuzzily (settings : Settings) (s : Segment) (candidate : Text) (offset : Nat) : Option Match :=
  Id.run (s.findWith fun stripped c => (attempt settings candidate offset stripped c).fuzzily)

end Segment
end IdentSearch
