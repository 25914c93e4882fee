import IdentSearch.Decimal

/-!
Decimal fractions that are kept in binary. A number is rounded to the nearest one of 53 binary digits, a half to
the even one, and stands from then on for the shortest decimal fraction that is rounded to the same number.
-/

namespace IdentSearch

structure Binary where
  mantissa : Nat
  exponent : Int
deriving DecidableEq, Repr

namespace Binary

def fullMantissa : Nat := Nat.pow 2 52

def minExponent : Int := -1074

def maxExponent : Int := 971

/-- The fraction `num / den` divided by `base ^ exponent`, as a numerator and a denominator. -/
def scale (base num den : Nat) (exponent : Int) : Nat × Nat :=
  (num * Nat.pow base (-exponent).toNat, den * Nat.pow base exponent.toNat)

/-- The exponent that gives the fraction `num / den` a mantissa of all digits, if it is not too small for it. -/
def exponentFor (num den : Nat) : Int :=
  let guess := max ((num.log2 : Int) - den.log2 - 52) minExponent
  let (n, d) := scale 2 num den guess
  if n < d * fullMantissa then max (guess - 1) minExponent else guess

def nearest (num den : Nat) : Binary :=
  let exponent := exponentFor num den
  let (n, d) := scale 2 num den exponent
  let mantissa := Decimal.roundDiv n d
  if mantissa = 2 * fullMantissa then ⟨fullMantissa, exponent + 1⟩ else ⟨mantissa, exponent⟩

def ofDigits (digits : Nat) (exponent : Int) : Binary :=
  let (num, den) := scale 10 digits 1 (-exponent)
  nearest num den

/--
The digits of a decimal fraction with exponent `exponent` that is rounded to a binary number; of two such
fractions those of the nearer one.
-/
def digitsAt? (b : Binary) (exponent : Int) : Option Nat :=
  let (n, d) := scale 2 b.mantissa 1 (-b.exponent)
  let (n, d) := scale 10 n d exponent
  [Decimal.roundDiv n d, n / d, n / d + 1].find? fun digits => ofDigits digits exponent = b

def roundTo (places : Nat) (b : Binary) : Nat :=
  let (n, d) := scale 2 b.mantissa 1 (-b.exponent)
  Decimal.roundDiv (n * Nat.pow 10 places) d

end Binary

namespace Decimal

def magnitude (d : Decimal) : Int := (Nat.toDigits 10 d.digits).length + d.exponent

def enoughDigits : Nat := 18

/--
The shortest decimal fraction that is kept as the same binary number. A number that is too large to be kept has
none, and one that is too small becomes zero.
-/
def kept? (d : Decimal) : Option Decimal :=
  if d.digits = 0 ∨ d.magnitude < -330 then some ⟨d.negative, 0, 0⟩
  else if 310 < d.magnitude then none
  else
    let b := Binary.ofDigits d.digits d.exponent
    if Binary.maxExponent < b.exponent then none
    else if b.mantissa = 0 then some ⟨d.negative, 0, 0⟩
    else
      some <| ((List.range enoughDigits).findSome? fun n =>
        let exponent := d.magnitude - (n + 1 : Nat)
        (b.digitsAt? exponent).map fun digits => normalize ⟨d.negative, digits, exponent⟩).getD d

end Decimal
end IdentSearch
