import IdentSearch.Text.Basic

/-!
Whole numbers as a user types them: with a sign or without, with white space around them, in the decimal
digits of any script, of which there may not be too many, and with single underscores between digits.
-/

namespace IdentSearch.Text

/-- The number that digits stand for. An underscore must have a digit on both sides. -/
def digitsToNat? (t : Text) : Option Nat :=
  match t with
  | [] => none
  | c :: cs => do go (← decimalValue? c) cs
where
  go (n : Nat) : Text → Option Nat
    | [] => some n
    | '_' :: c :: cs => do go (n * 10 + (← decimalValue? c)) cs
    | c :: cs => do go (n * 10 + (← decimalValue? c)) cs

def maxDigits : Nat := 4300

def digitCount (t : Text) : Nat := t.countP fun c => (decimalValue? c).isSome

/-- White space that may stand around a number. The four information separators may not. -/
def isNumberBlank (c : Char) : Bool := isBlankChar c && !between '\x1C' '\x1F' c

def toInt? (t : Text) : Option Int :=
  if maxDigits < digitCount t then none
  else
    match (((t.dropWhile isNumberBlank).reverse).dropWhile isNumberBlank).reverse with
    | '-' :: digits => (digitsToNat? digits).map fun n => -(n : Int)
    | '+' :: digits => (digitsToNat? digits).map fun n => (n : Int)
    | digits => (digitsToNat? digits).map fun n => (n : Int)

def hexDigit? (c : Char) : Option Nat :=
  if between '0' '9' c then some (c.toNat - '0'.toNat)
  else if between 'a' 'f' c then some (c.toNat - 'a'.toNat + 10)
  else if between 'A' 'F' c then some (c.toNat - 'A'.toNat + 10)
  else none

end IdentSearch.Text
