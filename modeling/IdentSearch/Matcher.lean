import IdentSearch.Cascade
import IdentSearch.Options

/-!
Matchers: a pattern together with the options under which candidates are compared with it.
-/

namespace IdentSearch

inductive Strategy
  | simple (segment : Segment)
  -- One segment over each container part of the candidate. The last segment lies on the last part, the one before
  -- it on the part before it, and so on.
  | containers (segments : List Segment) (separators : CharSet)

structure Matcher where
  locale : Option Text
  settings : Settings
  strategy : Strategy

namespace Matcher

inductive Error
  | blankPattern
  | missingOptions
  | noSeparators
deriving DecidableEq, Repr

def Error.message : Error → String
  | blankPattern => "A non-empty pattern is required to create a pattern matcher"
  | missingOptions => "Matcher options are required to create a pattern matcher"
  | noSeparators =>
    "Container split characters must not be empty; use None for a simple matcher"

def settingsOf (o : Options) : Settings :=
  ⟨Folding.ofLocale o.locale, o.includeSpans, o.allowFuzzy, o.allowSubstring⟩

def simple (pattern : Text) (o : Options) : Matcher :=
  ⟨o.locale, settingsOf o, .simple ⟨pattern.trim⟩⟩

def containers (parts : List Text) (separators : CharSet) (o : Options) : Matcher :=
  ⟨o.locale, settingsOf o, .containers (parts.map fun p => ⟨p.trim⟩) separators⟩

def create (pattern : Option Text) (options : Option Options) : Except Error Matcher :=
  match pattern with
  | none => .error .blankPattern
  | some p =>
    if p.isBlank then .error .blankPattern
    else match options with
      | none => .error .missingOptions
      | some o => match o.separators with
        | none => .ok (simple p o)
        | some s =>
          if s.isEmpty then .error .noSeparators
          else .ok (containers ((p.split s.contains).map (·.text)) s o)

def segments (m : Matcher) : List Segment :=
  match m.strategy with
  | .simple segment => [segment]
  | .containers segments _ => segments

def isInvalid (m : Matcher) : Bool := m.segments.isEmpty || m.segments.any (·.isInvalid)

def layOut (segments : List Segment) (parts : List Piece) : List (Segment × Piece) :=
  segments.reverse.zip parts.reverse

/--
The match of a candidate in one pass: all segments are compared with what lies under them by the same
function, which is told where the part of the candidate starts.
-/
def pass {n : Type → Type} [Monad n] (m : Matcher) (candidate : Text)
    (find : Segment → Text → Nat → n (Option Match)) : n (Option Match) :=
  match m.strategy with
  | .simple segment => find segment candidate 0
  | .containers segments separators => do
    let parts := candidate.splitNonempty separators.contains
    if parts.length < segments.length then return none
    else
      return (← Match.ofAll (fun (s, p) => find s p.text p.start) (layOut segments parts)).bind
        Match.mergeAll

def strictly {n : Type → Type} [Monad n] (humpsOf : Text → n Spans) (m : Matcher)
    (candidate : Text) : n (Option Match) :=
  m.pass candidate fun s text offset => s.run humpsOf m.settings text offset

def fuzzily (m : Matcher) (candidate : Text) : Option Match :=
  if m.settings.allowFuzzy then
    Id.run (m.pass candidate fun s text offset => s.fuzzily m.settings text offset)
  else none

def run {n : Type → Type} [Monad n] (humpsOf : Text → n Spans) (m : Matcher)
    (candidate : Option Text) : n (Option Match) :=
  match candidate with
  | none => return none
  | some c =>
    if m.isInvalid || c.isBlank then return none
    else do orTry (← m.strictly humpsOf c) (return m.fuzzily c)

end Matcher
end IdentSearch
