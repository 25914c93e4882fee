import IdentSearch.Yaml.Scalar.Reading

/-!
The tokens of a YAML text, one after the other. A key need not be announced: whether something was a key shows
only when a colon follows, so that tokens are read ahead and the key is announced afterwards.
-/

namespace IdentSearch.Yaml

structure PlacedToken where
  token : Token
  start : Place
  stop : Place

structure PossibleKey where
  number : Nat
  -- Whether it must be a key, because it stands where only a key can.
  required : Bool
  start : Cursor

structure Tokens where
  cursor : Cursor
  queue : List PlacedToken := []
  taken : Nat := 0
  indents : List Nat := []
  depth : Nat := 0
  keys : List (Nat × PossibleKey) := []
  keyAllowed : Bool := true
  finished : Bool := false

namespace Tokens

def start (t : Text) : Tokens := { cursor := Cursor.start t }

def inFlow (t : Tokens) : Bool := decide (0 < t.depth)

def low (t : Tokens) : Nat := (t.indents.head?.map (· + 1)).getD 0

def push (token : Token) (t : Tokens) (next : Cursor) : Tokens :=
  { t with queue := t.queue ++ [⟨token, t.cursor.place, next.place⟩], cursor := next }

def pushEmpty (token : Token) (t : Tokens) : Tokens := t.push token t.cursor

def insert (token : Token) (key : PossibleKey) (t : Tokens) : Tokens :=
  let place := key.start.place
  { t with queue := t.queue.insertIdx (key.number - t.taken) ⟨token, place, place⟩ }

def keyError (key : PossibleKey) (c : Cursor) : Malformed :=
  .fault (some (.key, some key.start.place)) .missingColon c.place

def widestKey : Nat := 1024

def isStale (c : Cursor) (key : PossibleKey) : Bool :=
  key.start.line != c.line || decide (key.start.index + widestKey < c.index)

def dropStaleKeys (t : Tokens) : Except Malformed Tokens :=
  match t.keys.find? fun k => isStale t.cursor k.2 && k.2.required with
  | some (_, key) => .error (keyError key t.cursor)
  | none => .ok { t with keys := t.keys.filter fun k => !isStale t.cursor k.2 }

def dropKey (t : Tokens) : Except Malformed Tokens :=
  match t.keys.lookup t.depth with
  | none => .ok t
  | some key =>
    if key.required then .error (keyError key t.cursor)
    else .ok { t with keys := t.keys.filter fun k => k.1 != t.depth }

def saveKey (t : Tokens) : Except Malformed Tokens :=
  if t.keyAllowed then do
    let required := !t.inFlow && t.indents.head? == some t.cursor.column
    let t ← t.dropKey
    return { t with keys := t.keys ++ [(t.depth, ⟨t.taken + t.queue.length, required, t.cursor⟩)] }
  else .ok t

def closeBlocks (ends : Nat → Bool) (t : Tokens) : Tokens :=
  if t.inFlow then t
  else
    (t.indents.takeWhile ends).foldl (fun t _ => t.pushEmpty .blockEnd)
      { t with indents := t.indents.dropWhile ends }

def canIndent (column : Nat) (t : Tokens) : Bool := t.indents.head?.all (· < column)

def openBlock (token : Token) (t : Tokens) : Tokens :=
  if t.inFlow || !t.canIndent t.cursor.column then t
  else { t with indents := t.cursor.column :: t.indents }.pushEmpty token

end Tokens
end IdentSearch.Yaml
