import IdentSearch.Text.Basic

/-!
A place in a YAML text: what is still to be read, and the line and column at which it begins.
-/

namespace IdentSearch.Yaml

def isBreak (c : Char) : Bool := c = '\n' || c = '\x85' || c = '\u2028' || c = '\u2029'

def isGap (c : Char) : Bool := c = ' ' || c = '\t' || isBreak c

def isSpaceOrTab (c : Char) : Bool := c = ' ' || c = '\t'

def byteOrderMark : Char := '\uFEFF'

def isAllowed (c : Char) : Bool :=
  c = '\t' || c = '\n' || c = '\r' || Text.between ' ' '~' c || c = '\x85' ||
    Text.between '\xA0' '\uD7FF' c || Text.between '\uE000' '\uFFFD' c || decide (0x10000 ≤ c.toNat)

def gapNext (t : Text) : Bool := t.head?.all isGap

structure Place where
  line : Nat
  column : Nat
deriving DecidableEq, Repr

structure Cursor where
  rest : Text
  index : Nat
  line : Nat
  column : Nat

namespace Cursor

def start (t : Text) : Cursor := ⟨t, 0, 0, 0⟩

def place (c : Cursor) : Place := ⟨c.line, c.column⟩

def atEnd (c : Cursor) : Bool := c.rest.isEmpty

/-- The place behind the next character. A line end starts a new line, and a byte order mark takes no column. -/
def next (c : Cursor) : Cursor :=
  match c.rest with
  | [] => c
  | x :: xs =>
    if isBreak x then ⟨xs, c.index + 1, c.line + 1, 0⟩
    else ⟨xs, c.index + 1, c.line, if x = byteOrderMark then c.column else c.column + 1⟩

def skip : (n : Nat) → Cursor → Cursor
  | 0, c => c
  | n + 1, c => skip n c.next

def run (p : Char → Bool) (c : Cursor) : Text := c.rest.takeWhile p

def skipWhile (p : Char → Bool) (c : Cursor) : Cursor := c.skip (c.run p).length

def skipSpaces (c : Cursor) : Cursor := c.skipWhile (· = ' ')

def skipLine (c : Cursor) : Cursor := c.skipWhile fun x => !isBreak x

def skipComment (c : Cursor) : Cursor := if c.rest.head? == some '#' then c.skipLine else c

def sees (x : Char) (c : Cursor) : Bool := c.rest.head? == some x

def seesMarker (x : Char) (c : Cursor) : Bool :=
  c.column == 0 && c.rest.take 3 == [x, x, x] && gapNext (c.rest.drop 3)

def seesBoundary (c : Cursor) : Bool := c.seesMarker '-' || c.seesMarker '.'

def takeBreak? (c : Cursor) : Option (Char × Cursor) :=
  match c.rest with
  | x :: _ =>
    if x = '\n' || x = '\x85' then some ('\n', c.next)
    else if isBreak x then some (x, c.next)
    else none
  | [] => none

def skipBreak (c : Cursor) : Cursor := (c.takeBreak?.map (·.2)).getD c

/--
The line ends that come next, together with characters of another kind that are passed over, and the place
behind them. They stop where a document starts or ends.
-/
def takeBreaks (passed : Char → Bool) : (fuel : Nat) → Cursor → Text × Cursor
  | 0, c => ([], c)
  | fuel + 1, c =>
    if c.seesBoundary then ([], c)
    else
      let c := c.skipWhile passed
      match c.takeBreak? with
      | some (x, next) =>
        let (more, next) := takeBreaks passed fuel next
        (x :: more, next)
      | none => ([], c)

def toToken (c : Cursor) : Cursor :=
  go c.rest.length c
where
  go : (fuel : Nat) → Cursor → Cursor
    | 0, c => c
    | fuel + 1, c =>
      let c := c.skipSpaces.skipComment
      match c.takeBreak? with
      | some (_, next) => go fuel next
      | none => c

end Cursor
end IdentSearch.Yaml
