import IdentSearch.Text.Property.Uppercase
import IdentSearch.Text.Property.Lowercase
import IdentSearch.Text.Property.Digit
import IdentSearch.Text.Property.DecimalDigit
import IdentSearch.Text.Property.Alphanumeric
import IdentSearch.Text.Property.Punctuation
import IdentSearch.Text.Property.Unprintable
import IdentSearch.Text.Property.LowercaseMapping

/-!
The classes of characters that decide where words begin, and the lowercase form of a single character.
Each class is a rule inside ASCII and a table of code points beyond it.
-/

namespace IdentSearch.Text

def isAscii (c : Char) : Bool := decide (c.toNat < 0x80)

def between (first last c : Char) : Bool :=
  decide (first.toNat ≤ c.toNat) && decide (c.toNat ≤ last.toNat)

def isUpper (c : Char) : Bool :=
  if isAscii c then between 'A' 'Z' c else CodeRange.anyContains uppercaseRanges c.toNat

def isLower (c : Char) : Bool :=
  if isAscii c then between 'a' 'z' c else CodeRange.anyContains lowercaseRanges c.toNat

def isDigit (c : Char) : Bool :=
  if isAscii c then between '0' '9' c else CodeRange.anyContains digitRanges c.toNat

def isWordChar (c : Char) : Bool :=
  if isAscii c then between 'a' 'z' c || between 'A' 'Z' c || between '0' '9' c
  else CodeRange.anyContains alphanumericRanges c.toNat

def asciiPunctuation : List CodeRange := [
  ⟨0x21, 0x23, 1⟩, ⟨0x25, 0x2A, 1⟩, ⟨0x2C, 0x2F, 1⟩, ⟨0x3A, 0x3B, 1⟩, ⟨0x3F, 0x40, 1⟩,
  ⟨0x5B, 0x5D, 1⟩, ⟨0x5F, 0x5F, 1⟩, ⟨0x7B, 0x7B, 1⟩, ⟨0x7D, 0x7D, 1⟩]

def isPunctuation (c : Char) : Bool :=
  CodeRange.anyContains (if isAscii c then asciiPunctuation else punctuationRanges) c.toNat

def blankRanges : List CodeRange := [
  ⟨0x09, 0x0D, 1⟩, ⟨0x1C, 0x20, 1⟩, ⟨0x85, 0x85, 1⟩, ⟨0xA0, 0xA0, 1⟩, ⟨0x1680, 0x1680, 1⟩,
  ⟨0x2000, 0x200A, 1⟩, ⟨0x2028, 0x2029, 1⟩, ⟨0x202F, 0x202F, 1⟩, ⟨0x205F, 0x205F, 1⟩,
  ⟨0x3000, 0x3000, 1⟩]

def isBlankChar (c : Char) : Bool := CodeRange.anyContains blankRanges c.toNat

def isPrintable (c : Char) : Bool :=
  if isAscii c then between ' ' '~' c else !CodeRange.anyContains unprintableRanges c.toNat

def decimalValue? (c : Char) : Option Nat :=
  if isAscii c then if between '0' '9' c then some (c.toNat - '0'.toNat) else none
  else (decimalDigitRanges.find? (·.contains c.toNat)).map fun r => (c.toNat - r.first) % 10

def lowerChar (c : Char) : Char :=
  if isAscii c then if between 'A' 'Z' c then Char.ofNat (c.toNat + 0x20) else c
  else match lowercaseOffsets.find? (·.codes.contains c.toNat) with
    | some o => Char.ofNat (c.toNat + o.offset).toNat
    | none => c

end IdentSearch.Text
