import IdentSearch.Decimal
import IdentSearch.Text.Number

/-!
Numbers as they are spelled in YAML texts.
-/

namespace IdentSearch.Yaml

def digitsValue? (base : Nat) (t : Text) : Option Nat :=
  let digits := t.filter (· ≠ '_')
  if digits.isEmpty then none
  else digits.foldl (fun acc c => do
    let n ← acc
    let d ← Text.hexDigit? c
    if d < base then some (n * base + d) else none) (some 0)

def takeSign : Text → Bool × Text
  | '-' :: t => (true, t)
  | '+' :: t => (false, t)
  | t => (false, t)

def sexagesimal? (parts : List Text) : Option Nat :=
  match parts with
  | first :: rest =>
    if rest.isEmpty || first.head?.all fun c => !Text.between '1' '9' c then none
    else rest.foldl (fun acc part => do
      let n ← acc
      let d ← if part.contains '_' || 2 < part.length then none else digitsValue? 10 part
      if d < 60 then some (n * 60 + d) else none) (digitsValue? 10 first)
  | [] => none

def colonParts : Text → List Text
  | [] => [[]]
  | c :: cs =>
    match colonParts cs with
    | [] => [[c]]
    | part :: parts => if c = ':' then [] :: part :: parts else (c :: part) :: parts

def natural? : Text → Option Nat
  | '0' :: 'b' :: t => digitsValue? 2 t
  | '0' :: 'x' :: t => digitsValue? 16 t
  | ['0'] => some 0
  | '0' :: t => digitsValue? 8 ('0' :: t)
  | c :: t =>
    if !Text.between '1' '9' c then none
    else if t.contains ':' then sexagesimal? (colonParts (c :: t))
    else digitsValue? 10 (c :: t)
  | [] => none

def exponent? : Text → Option Int
  | [] => some 0
  | e :: sign :: digits =>
    if (e = 'e' || e = 'E') && (sign = '+' || sign = '-') && digits.all (Text.between '0' '9') then
      (digitsValue? 10 digits).map fun n => if sign = '-' then -(n : Int) else n
    else none
  | _ => none

def decimal? (t : Text) : Option Decimal := do
  let (negative, body) := takeSign t
  let isDigitOrGap (c : Char) : Bool := Text.between '0' '9' c || c = '_'
  let whole := body.takeWhile isDigitOrGap
  match body.dropWhile isDigitOrGap with
  | '.' :: rest =>
    let part := rest.takeWhile isDigitOrGap
    let exponent ← exponent? (rest.dropWhile isDigitOrGap)
    if whole.head?.any (Text.between '0' '9') ||
        (whole.isEmpty && t.head? == some '.' && part.head?.any (Text.between '0' '9')) then
      let digits ← digitsValue? 10 (whole ++ part)
      return ⟨negative, digits, exponent - (part.filter (· ≠ '_')).length⟩
    else none
  | _ => none

def emptyNumber (base : Nat) : String := s!"invalid literal for int() with base {base}: ''"

def longNumber (digits : Nat) : String :=
  s!"Exceeds the limit ({Text.maxDigits} digits) for integer string conversion: value has {digits} digits; "
    ++ "use sys.set_int_max_str_digits() to increase the limit"

-- What is wrong with a text without a sign that is spelled like a whole number, if anything is.
def numberFault? : Text → Option String
  | '0' :: 'b' :: t => if !t.isEmpty && t.all (· = '_') then some (emptyNumber 2) else none
  | '0' :: 'x' :: t => if !t.isEmpty && t.all (· = '_') then some (emptyNumber 16) else none
  | '0' :: _ => none
  | t =>
    let digits := t.filter (· ≠ '_')
    if digits.all (Text.between '0' '9') && decide (Text.maxDigits < digits.length) then
      some (longNumber digits.length)
    else none

end IdentSearch.Yaml
