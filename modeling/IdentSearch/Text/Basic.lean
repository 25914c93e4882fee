import IdentSearch.Text.Character

/-!
Texts as sequences of code points: every index and every length in this library counts code points.
-/

namespace IdentSearch

abbrev Text := List Char

namespace Text

def ofString (s : String) : Text := s.toList

def isBlank (t : Text) : Bool := t.all isBlankChar

def trimLeft (t : Text) : Text := t.dropWhile isBlankChar

def trimRight (t : Text) : Text := (t.reverse.dropWhile isBlankChar).reverse

def trim (t : Text) : Text := trimRight (trimLeft t)

def slice (t : Text) (start length : Nat) : Text := (t.drop start).take length

/-- A position in a text of the given length. One that is below zero is counted from the end. -/
def position (length : Nat) (i : Int) : Nat := if i < 0 then (length + i).toNat else i.toNat

def cut (t : Text) (start stop : Int) : Text :=
  (t.take (position t.length stop)).drop (position t.length start)

def find? (value : Text) : Text → Option Nat
  | [] => if value.isEmpty then some 0 else none
  | c :: cs => if value.isPrefixOf (c :: cs) then some 0 else (find? value cs).map (· + 1)

def compare : Text → Text → Ordering
  | [], [] => .eq
  | [], _ :: _ => .lt
  | _ :: _, [] => .gt
  | a :: as, b :: bs =>
    if a.toNat < b.toNat then .lt else if b.toNat < a.toNat then .gt else compare as bs

@[simp]
theorem length_slice (t : Text) (start length : Nat)
    : (t.slice start length).length = min length (t.length - start) := by
  simp [slice]

@[simp]
theorem position_natCast (length n : Nat) : position length n = n := by
  have : ¬ (n : Int) < 0 := by omega
  simp [position, this]

@[simp]
theorem cut_natCast (t : Text) (start length : Nat)
    : t.cut start (start + length) = t.slice start length := by
  have : (start : Int) + length = (start + length : Nat) := by omega
  rw [cut, this, position_natCast, position_natCast, slice, List.drop_take]
  congr
  omega

theorem find?_nil (t : Text) : find? [] t = some 0 := by
  cases t <;> simp [find?]

end Text

theorem getElem?_of_drop {α : Type} {xs : List α} {n : Nat} {y : α} {ys : List α} (h : xs.drop n = y :: ys)
    : xs[n]? = some y ∧ xs.drop (n + 1) = ys := by
  constructor
  . rw [← List.head?_drop, h, List.head?_cons]
  . rw [← List.tail_drop, h, List.tail_cons]

end IdentSearch
