import IdentSearch.Span

/-!
The humps of an identifier: the word-like runs that a reader sees in `XMLHttpRequest` or `get_value2`.
Characters that cannot be part of a word separate humps and belong to none.
-/

namespace IdentSearch

inductive Breaking
  -- A run of capitals stays together: `UIElement` has the humps `UI` and `Element`.
  | words
  -- Every capital starts a hump: `CFP` has the humps `C`, `F` and `P`.
  | characters
deriving DecidableEq, Repr

structure OpenHump where
  start : Nat
  length : Nat
  latest : Char
  allUpper : Bool

namespace OpenHump

def single (start : Nat) (c : Char) : OpenHump := ⟨start, 1, c, Text.isUpper c⟩

def extend (h : OpenHump) (c : Char) : OpenHump :=
  ⟨h.start, h.length + 1, c, h.allUpper && Text.isUpper c⟩

def span (h : OpenHump) : Span := ⟨h.start, h.length⟩

end OpenHump

namespace Breaking

/--
Whether `c`, which follows an open hump, starts a hump of its own. Digits and other characters never
share a hump. Among words a capital starts a hump after a character that is none, and at the end of a
run of capitals that goes on in small letters: `UIElement` is cut before its second `E`.
-/
def cuts (b : Breaking) (h : OpenHump) (c : Char) (next : Option Char) : Bool :=
  Text.isDigit h.latest != Text.isDigit c ||
    match b with
    | .characters => Text.isUpper c
    | .words => Text.isUpper c && (!Text.isUpper h.latest || (h.allUpper && next.any Text.isLower))

def humps (b : Breaking) (t : Text) : Spans :=
  go 0 none t
where
  go (i : Nat) : Option OpenHump → Text → Spans
    | none, [] => []
    | some h, [] => [h.span]
    | none, c :: cs => go (i + 1) (if Text.isWordChar c then some (.single i c) else none) cs
    | some h, c :: cs =>
      if !Text.isWordChar c then h.span :: go (i + 1) none cs
      else if b.cuts h c cs.head? then h.span :: go (i + 1) (some (.single i c)) cs
      else go (i + 1) (some (h.extend c)) cs

end Breaking

def wordHumps (t : Text) : Spans := Breaking.words.humps t

def characterHumps (t : Text) : Spans := Breaking.characters.humps t

end IdentSearch
