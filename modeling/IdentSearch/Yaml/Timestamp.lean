import IdentSearch.Value
import IdentSearch.Yaml.Cursor
import IdentSearch.Yaml.Number

/-!
Dates and points in time as they are spelled in YAML texts. Some spellings look like one but name a day or an hour
that there is not.
-/

namespace IdentSearch.Yaml

structure Date where
  year : Nat
  month : Nat
  day : Nat

-- The hour of a day, with the distance from universal time in seconds if it is given.
structure Clock where
  hour : Nat
  minute : Nat
  second : Nat
  microsecond : Nat
  zone : Option Int

/-! ### Spelling -/

def takeNumber? (least most : Nat) (t : Text) : Option (Nat × Text) :=
  let digits := (t.take most).takeWhile (Text.between '0' '9')
  if digits.length < least then none else (digitsValue? 10 digits).map fun n => (n, t.drop digits.length)

def takeCharacter? (c : Char) : Text → Option Text
  | d :: t => if d = c then some t else none
  | [] => none

def takeDate? (t : Text) : Option (Date × Text) := do
  let (year, t) ← takeNumber? 4 4 t
  let (month, t) ← takeNumber? 1 2 (← takeCharacter? '-' t)
  let (day, t) ← takeNumber? 1 2 (← takeCharacter? '-' t)
  return (⟨year, month, day⟩, t)

def takeFraction (t : Text) : Nat × Text :=
  match t with
  | '.' :: t =>
    let digits := t.takeWhile (Text.between '0' '9')
    (((digitsValue? 10 ((digits ++ List.replicate 6 '0').take 6)).getD 0), t.drop digits.length)
  | t => (0, t)

def minutes? : Text → Option Nat
  | [] => some 0
  | t => do
    let (n, t) ← takeNumber? 2 2 (← takeCharacter? ':' t)
    if t.isEmpty then some n else none

def zone? (t : Text) : Option (Option Int) :=
  match t, t.dropWhile isSpaceOrTab with
  | [], _ => some none
  | _, ['Z'] => some (some 0)
  | _, '+' :: t => do
    let (hours, t) ← takeNumber? 1 2 t
    return some (hours * 3600 + (← minutes? t) * 60 : Nat)
  | _, '-' :: t => do
    let (hours, t) ← takeNumber? 1 2 t
    return some (-(hours * 3600 + (← minutes? t) * 60 : Nat))
  | _, _ => none

def clock? (t : Text) : Option Clock := do
  let behind ← match t with
    | 'T' :: t => some t
    | 't' :: t => some t
    | t => if t.head?.any isSpaceOrTab then some (t.dropWhile isSpaceOrTab) else none
  let (hour, t) ← takeNumber? 1 2 behind
  let (minute, t) ← takeNumber? 2 2 (← takeCharacter? ':' t)
  let (second, t) ← takeNumber? 2 2 (← takeCharacter? ':' t)
  let (microsecond, t) := takeFraction t
  return ⟨hour, minute, second, microsecond, ← zone? t⟩

/-! ### Meaning -/

def daysOf (year month : Nat) : Nat :=
  if month = 2 then if year % 4 = 0 ∧ (year % 100 ≠ 0 ∨ year % 400 = 0) then 29 else 28
  else if month = 4 ∨ month = 6 ∨ month = 9 ∨ month = 11 then 30 else 31

def Date.check (d : Date) : Except String Unit :=
  if d.year = 0 then .error "year 0 is out of range"
  else if d.month = 0 ∨ 12 < d.month then .error "month must be in 1..12"
  else if d.day = 0 ∨ daysOf d.year d.month < d.day then .error "day is out of range for month"
  else .ok ()

def secondsPerDay : Nat := 86400

def durationText (seconds : Int) : String :=
  let days := seconds / secondsPerDay
  let rest := seconds % secondsPerDay
  let parts := (if days = 0 then [] else ["days=" ++ toString days])
    ++ (if rest = 0 then [] else ["seconds=" ++ toString rest])
  "datetime.timedelta(" ++ (if parts.isEmpty then "0" else String.intercalate ", " parts) ++ ")"

def zoneText (seconds : Int) : String :=
  if seconds = 0 then "datetime.timezone.utc" else "datetime.timezone(" ++ durationText seconds ++ ")"

def Clock.checkZone (c : Clock) : Except String Unit :=
  match c.zone with
  | none => .ok ()
  | some seconds =>
    if seconds.natAbs < secondsPerDay then .ok ()
    else .error ("offset must be a timedelta strictly between -timedelta(hours=24) and timedelta(hours=24), not "
      ++ durationText seconds ++ ".")

def Clock.check (c : Clock) : Except String Unit :=
  if 23 < c.hour then .error "hour must be in 0..23"
  else if 59 < c.minute then .error "minute must be in 0..59"
  else if 59 < c.second then .error "second must be in 0..59"
  else .ok ()

def Date.numbers (d : Date) : List Nat := [d.year, d.month, d.day]

-- Seconds, and parts of a second, are left out if they are zero.
def Clock.numbers (c : Clock) : List Nat :=
  [c.hour, c.minute]
    ++ (if c.second = 0 ∧ c.microsecond = 0 then [] else [c.second])
    ++ (if c.microsecond = 0 then [] else [c.microsecond])

def temporal (typeName : String) (arguments : List String) : Value :=
  .foreign ⟨typeName, (typeName ++ "(" ++ String.intercalate ", " arguments ++ ")").toList, false⟩

def Date.value (d : Date) : Except String Value := do
  d.check
  return temporal "datetime.date" (d.numbers.map toString)

def Date.valueAt (d : Date) (c : Clock) : Except String Value := do
  c.checkZone
  d.check
  c.check
  return temporal "datetime.datetime"
    ((d.numbers ++ c.numbers).map toString ++ (c.zone.map fun z => "tzinfo=" ++ zoneText z).toList)

-- The value of a text that is spelled like a date or a point in time, or what is wrong with it. A date alone has
-- two digits for the month and the day.
def timestamp? (t : Text) : Option (Except String Value) := do
  let (date, rest) ← takeDate? t
  if rest.isEmpty then
    if t.length = 10 then return date.value else none
  else return date.valueAt (← clock? rest)

end IdentSearch.Yaml
