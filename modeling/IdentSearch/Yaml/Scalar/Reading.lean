import IdentSearch.Text.Number
import IdentSearch.Yaml.Malformed

/-!
Reading the scalars of a YAML text: plain ones, ones in quotes, and texts that are made by indentation.
-/

namespace IdentSearch.Yaml

/-- What stands for line ends inside a scalar: a single one is a space, and of more the first is dropped. -/
def folded (first : Char) (others : Text) : Text :=
  if first ≠ '\n' then first :: others else if others.isEmpty then [' '] else others

/-! ## Plain scalars -/

def endsPlain (inFlow : Bool) (c : Char) (rest : Text) : Bool :=
  isGap c ||
    (c = ':' && (gapNext rest || (inFlow && rest.head?.any fun d => ",[]\x7b\x7d".toList.contains d))) ||
    (inFlow && ",?[]\x7b\x7d".toList.contains c)

def plainWord (inFlow : Bool) : Text → Text
  | [] => []
  | c :: cs => if endsPlain inFlow c cs then [] else c :: plainWord inFlow cs

def startsPlain (inFlow : Bool) : Text → Bool
  | [] => false
  | c :: cs =>
    (!isGap c && !"-?:,[]\x7b\x7d#&*!|>'\"%@`".toList.contains c) ||
      (!gapNext cs && (c = '-' || (!inFlow && (c = '?' || c = ':'))))

structure PlainScalar where
  text : Text
  next : Cursor
  lineEnded : Bool

def plainGap (c : Cursor) : PlainScalar :=
  let spaces := c.run (· = ' ')
  let c := c.skipSpaces
  match c.takeBreak? with
  | none => ⟨spaces, c, false⟩
  | some (first, next) =>
    let (others, next) := next.takeBreaks (· = ' ') (next.rest.length + 1)
    ⟨if next.seesBoundary then [] else folded first others, next, true⟩

/--
Reads a plain scalar. It goes on in later lines as long as they start at a column of at least `low`; inside
brackets their columns do not matter.
-/
def readPlain (inFlow : Bool) (low : Nat) : (fuel : Nat) → (lineEnded : Bool) → Cursor → PlainScalar
  | 0, lineEnded, c => ⟨[], c, lineEnded⟩
  | fuel + 1, lineEnded, c =>
    let word := if c.sees '#' then [] else plainWord inFlow c.rest
    if word.isEmpty then ⟨[], c, lineEnded⟩
    else
      let gap := plainGap (c.skip word.length)
      if gap.text.isEmpty || gap.next.sees '#' || (!inFlow && decide (gap.next.column < low)) then
        { gap with text := word }
      else
        let more := readPlain inFlow low fuel gap.lineEnded gap.next
        { more with text := if more.text.isEmpty then word else word ++ gap.text ++ more.text }

/-! ## Scalars in quotes -/

def simpleEscape? (c : Char) : Option Char :=
  [('0', '\x00'), ('a', '\x07'), ('b', '\x08'), ('t', '\t'), ('\t', '\t'), ('n', '\n'), ('v', '\x0B'),
    ('f', '\x0C'), ('r', '\r'), ('e', '\x1B'), (' ', ' '), ('"', '"'), ('\\', '\\'), ('/', '/'),
    ('N', '\x85'), ('_', '\xA0'), ('L', '\u2028'), ('P', '\u2029')].lookup c

def escapeDigits? (c : Char) : Option Nat := [('x', 2), ('u', 4), ('U', 8)].lookup c

def readHexadecimal (began : Place) (n : Nat) (c : Cursor) : Except Malformed (Char × Cursor) :=
  let digits := (c.rest.take n).takeWhile fun x => (Text.hexDigit? x).isSome
  if digits.length = n then
    .ok (Char.ofNat (digits.foldl (fun acc x => acc * 16 + (Text.hexDigit? x).getD 0) 0), c.skip n)
  else
    .error (.fault (some (.escape, some began)) (.expected (.hexadecimal n) (c.rest.drop digits.length).head?)
      c.place)

def quotedBreaks (began : Place) (c : Cursor) : Except Malformed (Text × Cursor) :=
  let (breaks, next) := c.takeBreaks isSpaceOrTab (c.rest.length + 1)
  if next.seesBoundary then .error (.fault (some (.quoted, some began)) .documentEnds next.place)
  else .ok (breaks, next)

def readEscape (began : Place) (c : Cursor) : Except Malformed (Text × Cursor) :=
  match c.rest.head? with
  | none => .error (.fault (some (.escape, some began)) (.unknownEscape none) c.place)
  | some x =>
    match simpleEscape? x, escapeDigits? x, c.takeBreak? with
    | some e, _, _ => .ok ([e], c.next)
    | none, some n, _ => (readHexadecimal began n c.next).map fun (e, next) => ([e], next)
    | none, none, some (_, next) => quotedBreaks began next
    | none, none, none => .error (.fault (some (.escape, some began)) (.unknownEscape (some x)) c.place)

def readQuotedGap (began : Place) (c : Cursor) : Except Malformed (Text × Cursor) :=
  let blanks := c.run isSpaceOrTab
  let c := c.skip blanks.length
  if c.atEnd then .error (.fault (some (.quoted, some began)) .textEnds c.place)
  else
    match c.takeBreak? with
    | none => .ok (blanks, c)
    | some (first, next) => (quotedBreaks began next).map fun (others, next) => (folded first others, next)

def readQuoted (quote : Char) (began : Place) : (fuel : Nat) → Cursor → Except Malformed (Text × Cursor)
  | 0, c => .error (.fault (some (.quoted, some began)) .textEnds c.place)
  | fuel + 1, c => do
    if c.sees quote && !(quote = '\'' && c.next.sees quote) then return ([], c.next)
    let (piece, next) ←
      match c.rest with
      | [] => readQuotedGap began c
      | x :: _ =>
        if x = quote then pure ([x], c.skip 2)
        else if x = '\\' && quote = '"' then readEscape began c.next
        else if isGap x then readQuotedGap began c
        else pure ([x], c.next)
    let (more, after) ← readQuoted quote began fuel next
    return (piece ++ more, after)

/-! ## Texts that are made by indentation -/

inductive Chomping
  | strip
  | clip
  | keep
deriving DecidableEq, Repr

def chomping? (c : Cursor) : Option Chomping :=
  if c.sees '+' then some .keep else if c.sees '-' then some .strip else none

def readIndentation (began : Place) (c : Cursor) : Except Malformed (Option Nat × Cursor) :=
  match c.rest.head? with
  | some x =>
    if !Text.between '0' '9' x then .ok (none, c)
    else if x = '0' then .error (.fault (some (.blockText, some began)) .noIndentation c.place)
    else .ok (Text.hexDigit? x, c.next)
  | none => .ok (none, c)

def readIndicators (began : Place) (c : Cursor) : Except Malformed (Chomping × Option Nat × Cursor) := do
  let (chomping, indentation, c) ←
    match chomping? c with
    | some chomping => do
      let (n, c) ← readIndentation began c.next
      pure (chomping, n, c)
    | none => do
      let (n, c) ← readIndentation began c
      match if n.isSome then chomping? c else none with
      | some chomping => pure (chomping, n, c.next)
      | none => pure (.clip, n, c)
  if c.rest.head?.all fun x => x = ' ' || isBreak x then return (chomping, indentation, c)
  else throw (.fault (some (.blockText, some began)) (.expected .indicators c.rest.head?) c.place)

def skipLineEnd (context : Context) (began : Place) (c : Cursor) : Except Malformed Cursor :=
  let c := c.skipSpaces.skipComment
  if c.rest.head?.all isBreak then .ok c.skipBreak
  else .error (.fault (some (context, some began)) (.expected .lineEnd c.rest.head?) c.place)

def skipIndentation (column : Nat) (c : Cursor) : Cursor :=
  c.skip (min (column - c.column) (c.run (· = ' ')).length)

def emptyLines (indentation : Nat) : (fuel : Nat) → Cursor → Text × Cursor
  | 0, c => ([], c)
  | fuel + 1, c =>
    let c := skipIndentation indentation c
    match c.takeBreak? with
    | none => ([], c)
    | some (x, next) =>
      let (more, next) := emptyLines indentation fuel next
      (x :: more, next)

def leadingLines : (fuel : Nat) → Cursor → Text × Nat × Cursor
  | 0, c => ([], 0, c)
  | fuel + 1, c =>
    let c := c.skipSpaces
    match c.takeBreak? with
    | none => ([], c.column, c)
    | some (x, next) =>
      let (more, widest, after) := leadingLines fuel next
      (x :: more, max c.column widest, after)

def startsDense (c : Cursor) : Bool := !c.rest.head?.any isSpaceOrTab

/--
The lines of a text with an indentation, from the first line that is not empty on, with the line ends behind
them and the place there. If lines are joined, then a single line end between dense lines becomes a space.
-/
def blockLines (joined : Bool) (indentation : Nat) (breaks : Text)
    : (fuel : Nat) → Cursor → Text × Option Char × Text × Cursor
  | 0, c => ([], none, breaks, c)
  | fuel + 1, c =>
    if c.column ≠ indentation || c.atEnd then ([], none, breaks, c)
    else
      let line := c.run fun x => !isBreak x
      let ended := c.skipLine
      let lineBreak := ended.takeBreak?.map (·.1)
      let (later, next) := emptyLines indentation (ended.rest.length + 1) ended.skipBreak
      if next.column ≠ indentation || next.atEnd then (breaks ++ line, lineBreak, later, next)
      else
        let between :=
          if joined && lineBreak == some '\n' && startsDense c && startsDense next then
            if later.isEmpty then [' '] else []
          else lineBreak.toList
        let (more, last, behind, after) := blockLines joined indentation later fuel next
        (breaks ++ line ++ between ++ more, last, behind, after)

def readBlockText (joined : Bool) (low : Nat) (c : Cursor) : Except Malformed (Text × Cursor) := do
  let began := c.place
  let (chomping, indentation, c) ← readIndicators began c.next
  let c ← skipLineEnd .blockText began c
  let fuel := c.rest.length + 1
  let least := max low 1
  let (breaks, indentation, c) :=
    match indentation with
    | some n =>
      let (breaks, c) := emptyLines (least + n - 1) fuel c
      (breaks, least + n - 1, c)
    | none =>
      let (breaks, widest, c) := leadingLines fuel c
      (breaks, max least widest, c)
  let (text, last, behind, c) := blockLines joined indentation breaks fuel c
  let ending := match chomping with
    | .strip => []
    | .clip => last.toList
    | .keep => last.toList ++ behind
  return (text ++ ending, c)

end IdentSearch.Yaml
