import IdentSearch.Text.Lowercase

/-!
Comparison of texts without regard to case. Folding works character by character and keeps the length
of a text, so a position found in a folded text is valid in the text itself.
-/

namespace IdentSearch

inductive Folding
  | plain
  -- The rule of Turkish and Azeri, where the small form of `I` has no dot.
  | turkic
deriving DecidableEq, Repr

namespace Folding

def language (locale : Text) : Text :=
  (locale.takeWhile fun c => c != '-' && c != '_')

def ofLocale : Option Text → Folding
  | none => .plain
  | some locale =>
    let l := Text.lowercase (language locale)
    if l = ['t', 'r'] ∨ l = ['a', 'z'] then .turkic else .plain

/-- The folded form of a character. The dotted capital I folds to the plain small i. -/
def foldChar : Folding → Char → Char
  | .turkic, 'I' => 'ı'
  | _, 'İ' => 'i'
  | _, c => Text.lowerChar c

def lowerAscii (c : Char) : Char :=
  if Text.between 'A' 'Z' c then Char.ofNat (c.toNat + 0x20) else c

/-- The folded form of a text. Outside the Turkic rule no table is needed for an ASCII text. -/
def fold (f : Folding) (t : Text) : Text :=
  match f with
  | .turkic => t.map (foldChar .turkic)
  | .plain => if t.all Text.isAscii then t.map lowerAscii else t.map (foldChar .plain)

def indexOf (f : Folding) (ignoreCase : Bool) (t value : Text) : Option Nat :=
  if ignoreCase then Text.find? (f.fold value) (f.fold t) else Text.find? value t

def equals (f : Folding) (ignoreCase : Bool) (t u : Text) : Bool :=
  if ignoreCase then t.length == u.length && f.fold t == f.fold u else t == u

def startsWith (f : Folding) (ignoreCase : Bool) (t beginning : Text) : Bool :=
  decide (beginning.length ≤ t.length) &&
    f.equals ignoreCase (t.take beginning.length) beginning

def regionEquals (f : Folding) (ignoreCase : Bool)
    (t : Text) (start : Nat) (u : Text) (uStart : Nat) (length : Nat) : Bool :=
  f.equals ignoreCase (t.slice start length) (u.slice uStart length)

/-- As `regionEquals`, with positions that are counted from the end if they are below zero. -/
def regionEqualsAt (f : Folding) (ignoreCase : Bool)
    (t : Text) (start : Int) (u : Text) (uStart : Int) (length : Int) : Bool :=
  f.equals ignoreCase (t.cut start (start + length)) (u.cut uStart (uStart + length))

def charsEqual (f : Folding) (ignoreCase : Bool) (c d : Char) : Bool :=
  if ignoreCase then f.foldChar c == f.foldChar d else c == d

structure NotCharacter where
  length : Nat
deriving DecidableEq, Repr

def NotCharacter.message (e : NotCharacter) : String :=
  "ord() expected a character, but string of length " ++ toString e.length ++ " found"

/--
The folded form of a character that is given as a text. Other texts than single characters stay as they are, unless
they stand between `A` and `Z` in the alphabetical order.
-/
def foldGiven (f : Folding) : Text → Except NotCharacter Text
  | [c] => .ok [f.foldChar c]
  | t => if t.head?.any (Text.between 'A' 'Y') then .error ⟨t.length⟩ else .ok t

def givenEqual (f : Folding) (ignoreCase : Bool) (t u : Text) : Except NotCharacter Bool :=
  if ignoreCase then do
    let folded ← f.foldGiven t
    return folded == (← f.foldGiven u)
  else .ok (t == u)

end Folding
end IdentSearch
