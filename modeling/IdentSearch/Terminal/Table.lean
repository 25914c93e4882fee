import IdentSearch.Terminal.Wrap
import IdentSearch.Text.Split

/-!
Tables of text with a title above them and frames around the cells. A cell with several lines makes its row
higher.
-/

namespace IdentSearch.Terminal

inductive Side
  | left
  | right
deriving DecidableEq, Repr

structure Column where
  header : Text
  side : Side

structure Table where
  title : Text
  columns : List Column
  rows : List (List Text)

namespace Table

def run (n : Nat) (c : Char) : Text := List.replicate n c

def pad (side : Side) (width : Nat) (t : Text) : Text :=
  match side with
  | .left => t ++ run (width - cells t) ' '
  | .right => run (width - cells t) ' ' ++ t

def center (width : Nat) (t : Text) : Text :=
  let left := (width - cells t) / 2
  run left ' ' ++ t ++ run (width - cells t - left) ' '

def endsLine (c : Char) : Bool :=
  c = '\n' || Text.between '\x1C' '\x1E' c || c = '\x85' || c = '\u2028' || c = '\u2029'

def cellsOf (t : Text) : Nat :=
  (Text.split endsLine (t.filter fun c => !isControl c)).foldl (fun n p => max n (cells p.text)) 0

def widest (texts : List Text) : Nat := texts.foldl (fun n t => max n (cellsOf t)) 0

def widths (t : Table) : List Nat :=
  go t.columns t.rows
where
  go : List Column → List (List Text) → List Nat
    | [], _ => []
    | c :: cs, rows =>
      widest (c.header :: rows.filterMap (·.head?)) :: go cs (rows.map List.tail)

def framed (left middle right : Char) (cells : List Text) : Text :=
  left :: ((cells.intersperse [middle]).flatten ++ [right])

def rule (widths : List Nat) (line left middle right : Char) : Text :=
  framed left middle right (widths.map fun n => run (n + 2) line)

def fit (width : Nat) (line : Text) : Text :=
  let line := cropBlanks width (expandTabs line)
  if width < cells line then crop (width - 1) line ++ ['…'] else line

def line (t : Table) (frame : Char) (texts : List Text) : Text :=
  let cells := (t.columns.zip (t.widths.zip texts)).map fun (c, n, text) =>
    ' ' :: (pad c.side n (fit n text) ++ [' '])
  framed frame frame frame cells

def rowLines (t : Table) (frame : Char) (texts : List Text) : List Text :=
  let columns := texts.map plainLines
  let height := columns.foldl (fun n c => max n c.length) 0
  (List.range height).map fun i => t.line frame (columns.map fun column => column[i]?.getD [])

def titleLines (t : Table) (width : Nat) : List Text :=
  ((plainLines t.title).flatMap (wrapLine width)).map fun l => center width (Text.trimRight l)

def lines (t : Table) : List Text :=
  let ws := t.widths
  let total := (ws.foldl (fun n w => n + w + 3) 0) + 1
  t.titleLines total
    ++ [rule ws '━' '┏' '┳' '┓']
    ++ t.rowLines '┃' (t.columns.map (·.header))
    ++ [rule ws '━' '┡' '╇' '┩']
    ++ t.rows.flatMap (t.rowLines '│')
    ++ [rule ws '─' '└' '┴' '┘']

def render (t : Table) : Text := t.lines.flatMap (· ++ ['\n'])

end Table
end IdentSearch.Terminal
