import IdentSearch.Value

/-!
Values as JSON, with two spaces of indentation for each level. Only ASCII characters are written; all others
are escaped by their UTF-16 units.
-/

namespace IdentSearch.Json

def escapeUnit (n : Nat) : Text := ['\\', 'u'] ++ Text.hexadecimal 4 n

def quoteChar (c : Char) : Text :=
  if c = '"' ∨ c = '\\' then ['\\', c]
  else if c = '\n' then ['\\', 'n']
  else if c = '\r' then ['\\', 'r']
  else if c = '\t' then ['\\', 't']
  else if c = '\x08' then ['\\', 'b']
  else if c = '\x0C' then ['\\', 'f']
  else if Text.between ' ' '~' c then [c]
  else if c.toNat < 0x10000 then escapeUnit c.toNat
  else
    let n := c.toNat - 0x10000
    escapeUnit (0xD800 + n / 0x400) ++ escapeUnit (0xDC00 + n % 0x400)

def quoted (t : Text) : Text := '"' :: (t.flatMap quoteChar ++ ['"'])

def newLine (level : Nat) : Text := '\n' :: List.replicate (2 * level) ' '

def bracketed (level : Nat) (opening closing : Char) (items : List Text) : Text :=
  if items.isEmpty then [opening, closing]
  else
    opening :: (newLine (level + 1) ++ (items.intersperse (',' :: newLine (level + 1))).flatten
      ++ newLine level ++ [closing])

def keyText : Value → Text
  | .text t => t
  | .null => "null".toList
  | .bool b => (if b then "true" else "false").toList
  | v => v.render

mutual

def render (level : Nat) : Value → Text
  | .null => "null".toList
  | .bool b => (if b then "true" else "false").toList
  | .int n => Value.intText n
  | .decimal d => d.text
  | .infinity negative => (if negative then "-Infinity" else "Infinity").toList
  | .undefined => "NaN".toList
  | .text t => quoted t
  | .list items => bracketed level '[' ']' (renderItems level items)
  | .gathered _ items => bracketed level '[' ']' (renderItems level items)
  | .map entries => bracketed level '\x7b' '\x7d' (renderEntries level entries)
  | .foreign object => quoted object.shown

def renderItems (level : Nat) : List Value → List Text
  | [] => []
  | v :: vs => render (level + 1) v :: renderItems level vs

def renderEntries (level : Nat) : List (Value × Value) → List Text
  | [] => []
  | (k, v) :: rest =>
    (quoted (keyText k) ++ [':', ' '] ++ render (level + 1) v) :: renderEntries level rest

end

end IdentSearch.Json
