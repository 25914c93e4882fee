import IdentSearch.Text.Basic
import IdentSearch.Text.Property.Wide
import IdentSearch.Text.Property.ZeroWidth

/-!
The columns that a text takes on a terminal.
-/

namespace IdentSearch.Terminal

def cellWidth (c : Char) : Nat :=
  if Text.isAscii c then if Text.between ' ' '~' c then 1 else 0
  else if Text.CodeRange.anyContains Text.wideRanges c.toNat then 2
  else if Text.CodeRange.anyContains Text.zeroWidthRanges c.toNat then 0
  else 1

def cells (t : Text) : Nat := t.foldl (fun n c => n + cellWidth c) 0

end IdentSearch.Terminal
