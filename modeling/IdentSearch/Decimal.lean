/-!
Decimal fractions and the shortest text in which they are shown.
-/

namespace IdentSearch

structure Decimal where
  negative : Bool
  digits : Nat
  exponent : Int
deriving DecidableEq, Repr

namespace Decimal

/-- The quotient of two numbers, rounded to the nearest whole number and a half to the even one. -/
def roundDiv (num den : Nat) : Nat :=
  let quotient := num / den
  let twice := 2 * (num % den)
  if den < twice ∨ (twice = den ∧ quotient % 2 = 1) then quotient + 1 else quotient

def isZero (d : Decimal) : Bool := d.digits == 0

def stripZeros : (fuel digits : Nat) → Int → Nat × Int
  | 0, n, e => (n, e)
  | fuel + 1, n, e => if n ≠ 0 ∧ n % 10 = 0 then stripZeros fuel (n / 10) (e + 1) else (n, e)

def normalize (d : Decimal) : Decimal :=
  if d.digits = 0 then ⟨d.negative, 0, 0⟩
  else
    let (n, e) := stripZeros d.digits.log2 d.digits d.exponent
    ⟨d.negative, n, e⟩

def fraction (digits : List Char) : List Char := if digits.isEmpty then ['0'] else digits

def exponentText (e : Int) : List Char :=
  let digits := Nat.toDigits 10 e.natAbs
  (if e < 0 then '-' else '+') :: (if digits.length < 2 then '0' :: digits else digits)

/--
The shortest text of a number. From `10 ^ -4` up to, but not including, `10 ^ 16` it is positional with at
least one digit behind the point; outside it has an exponent.
-/
def text (d : Decimal) : List Char :=
  let d := d.normalize
  let digits := Nat.toDigits 10 d.digits
  /- The point stands behind so many digits. -/
  let point : Int := if d.digits = 0 then 1 else digits.length + d.exponent
  let body :=
    if -4 < point ∧ point ≤ 16 then
      if point ≤ 0 then
        ['0', '.'] ++ List.replicate point.natAbs '0' ++ digits
      else
        let before := digits.take point.toNat
        before ++ List.replicate (point.toNat - before.length) '0' ++ ['.']
          ++ fraction (digits.drop point.toNat)
    else
      let rest := digits.drop 1
      digits.take 1 ++ (if rest.isEmpty then [] else '.' :: rest) ++ ['e'] ++ exponentText (point - 1)
  if d.negative then '-' :: body else body

end Decimal
end IdentSearch
