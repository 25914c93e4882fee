import IdentSearch.Hump
import IdentSearch.Similarity
import IdentSearch.Text.Quoted
import IdentSearch.Text.Split

/-!
The parts of a pattern: segments, which stand for one container part each, and the chunks of a segment,
which are looked for in a candidate.
-/

namespace IdentSearch

structure Chunk where
  text : Text
deriving DecidableEq, Repr

namespace Chunk

def humps (c : Chunk) : Spans := characterHumps c.text

def humpTexts (c : Chunk) : List Text := c.humps.map (·.textOf c.text)

def isLowercase (c : Chunk) : Bool := !c.text.any Text.isUpper

def similarity (c : Chunk) (f : Folding) : Similarity := ⟨f, c.text⟩

def render (c : Chunk) : Text := "TextChunk(".toList ++ c.text.quoted ++ [')']

end Chunk

structure Segment where
  text : Text
deriving DecidableEq, Repr

namespace Segment

def total (s : Segment) : Chunk := ⟨s.text⟩

def words (s : Segment) : List Chunk := (Text.words s.text).map fun p => ⟨p.text⟩

def isInvalid (s : Segment) : Bool := s.text.isBlank

def render (s : Segment) : Text :=
  "PatternSegment(".toList ++ s.text.quoted ++ ", sub_chunks=[".toList
    ++ ((s.words.map (·.text.quoted)).intersperse [',', ' ']).flatten ++ [']', ')']

end Segment
end IdentSearch
