import IdentSearch.Text.Basic

/-!
Lines of a text. A line ends at a line feed, at a carriage return, or at one followed by the other; other
characters that could separate lines do not.
-/

namespace IdentSearch.Text

def normalizeBreaks : Text → Text
  | [] => []
  | ['\r'] => ['\n']
  | '\r' :: '\n' :: cs => '\n' :: normalizeBreaks cs
  | c :: cs => (if c = '\r' then '\n' else c) :: normalizeBreaks cs

def splitLines : Text → List Text
  | [] => [[]]
  | c :: cs =>
    match splitLines cs with
    | [] => [[c]]
    | line :: lines => if c = '\n' then [] :: line :: lines else (c :: line) :: lines

def nonblankLines (t : Text) : List Text :=
  (splitLines (normalizeBreaks t)).filter fun line => !line.isBlank

end IdentSearch.Text
