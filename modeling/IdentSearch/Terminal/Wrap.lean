import IdentSearch.Terminal.Cells
import IdentSearch.Text.Lines

/-!
Messages wrapped at the width of a terminal. A line is broken before a word that does not fit; the white
space in front of the break stays where it is as far as the width allows.
-/

namespace IdentSearch.Terminal

def isControl (c : Char) : Bool :=
  c = '\x07' || c = '\x08' || c = '\x0B' || c = '\x0C' || c = '\r'

/-- A line whose tabs are replaced by spaces up to the next column that is a multiple of eight. -/
def expandTabs (line : Text) : Text :=
  go 0 line
where
  go (column : Nat) : Text → Text
    | [] => []
    | c :: cs =>
      if c = '\t' then
        let n := 8 - column % 8
        List.replicate n ' ' ++ go (column + n) cs
      else c :: go (column + cellWidth c) cs

/--
The words of a line, each with the white space behind it; the white space at the beginning of the line
belongs to the first word.
-/
def words (line : Text) : List Text :=
  go [] false line
where
  -- Goes on in a word, of which `taken` is read in reverse; `ended` tells whether its letters are over.
  go (taken : Text) (ended : Bool) : Text → List Text
    | [] => [taken.reverse]
    | c :: cs =>
      if Text.isBlankChar c then go (c :: taken) (!taken.all Text.isBlankChar) cs
      else if ended then taken.reverse :: go [c] false cs
      else go (c :: taken) false cs

def chop (width : Nat) (t : Text) : List Text :=
  go [] t
where
  go (taken : Text) : Text → List Text
    | [] => [taken.reverse]
    | c :: cs =>
      if width < cells taken + cellWidth c then taken.reverse :: go [c] cs else go (c :: taken) cs

/-- Fills lines with words. `current` is the line being filled, and `done` the earlier ones in reverse. -/
def fill (width : Nat) (done : List Text) (current : Text) : List Text → List Text
  | [] => (current :: done).reverse
  | w :: ws =>
    let needed := cells (Text.trimRight w)
    if cells current + needed ≤ width then fill width done (current ++ w) ws
    else if width < needed then
      match (chop width w).reverse with
      | [] => fill width done current ws
      | rest :: full =>
        fill width (full ++ (if current.isEmpty then done else current :: done)) rest ws
    else fill width (current :: done) w ws

def cropBlanks (width : Nat) (line : Text) : Text :=
  let blanks := line.length - (Text.trimRight line).length
  line.take (line.length - min blanks (line.length - width))

/-- A line up to a width. A space stands for half of a character that would reach beyond it. -/
def crop (width : Nat) (line : Text) : Text :=
  go 0 line
where
  go (column : Nat) : Text → Text
    | [] => []
    | c :: cs =>
      if column + cellWidth c ≤ width then c :: go (column + cellWidth c) cs
      else List.replicate (width - column) ' '

def plainLines (t : Text) : List Text := Text.splitLines (t.filter fun c => !isControl c)

def wrapLine (width : Nat) (line : Text) : List Text :=
  (fill width [] [] (words (expandTabs line))).map fun l => crop width (cropBlanks width l)

def terminalWidth : Nat := 80

def message (t : Text) : Text :=
  ((plainLines t).flatMap (wrapLine terminalWidth)).flatMap (· ++ ['\n'])

end IdentSearch.Terminal
