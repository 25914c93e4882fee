import IdentSearch.Text.Basic
import IdentSearch.Text.Property.CaseIgnorable
import IdentSearch.Text.Property.Cased

/-!
The lowercase form of a whole text, in which a sigma at the end of a word has a form of its own and
the dotted capital I becomes two characters.
-/

namespace IdentSearch.Text

def isCaseIgnorable (c : Char) : Bool := CodeRange.anyContains caseIgnorableRanges c.toNat

def isCased (c : Char) : Bool := CodeRange.anyContains casedRanges c.toNat

def casedAhead (t : Text) : Bool := (t.dropWhile isCaseIgnorable).head?.any isCased

def lowerChars (c : Char) : Text := if c = 'İ' then ['i', '\u0307'] else [lowerChar c]

/--
The lowercase form of a text. A capital sigma becomes the final form when a cased character stands
before it and none after it.
-/
def lowercase (t : Text) : Text :=
  go false t
where
  -- `casedBefore` tells whether the nearest character before that is not case-ignorable is cased.
  go (casedBefore : Bool) : Text → Text
    | [] => []
    | c :: cs =>
      let lowered := if c = 'Σ' && casedBefore && !casedAhead cs then ['ς'] else lowerChars c
      lowered ++ go (if isCaseIgnorable c then casedBefore else isCased c) cs

end IdentSearch.Text
