import IdentSearch.Text.Basic

/-!
Cutting a text into pieces at separators, each piece with the position at which it starts.
-/

namespace IdentSearch

structure Piece where
  start : Nat
  text : Text
deriving DecidableEq, Repr

namespace Piece

def shift (n : Nat) (p : Piece) : Piece := ⟨p.start + n, p.text⟩

end Piece

namespace Text

def pieces (dropEmpty : Bool) (isSeparator : Char → Bool) (t : Text) : List Piece :=
  go 0 [] 0 t
where
  -- The pieces from position `i` on; the first starts at `start` with the reverse of `taken`.
  go (start : Nat) (taken : Text) (i : Nat) : Text → List Piece
    | [] => finished start taken i
    | c :: cs =>
      if isSeparator c then finished start taken i ++ go (i + 1) [] (i + 1) cs
      else go start (c :: taken) (i + 1) cs
  finished (start : Nat) (taken : Text) (i : Nat) : List Piece :=
    if start < i || !dropEmpty then [⟨start, taken.reverse⟩] else []

/--
The pieces between the separators of a text, empty ones included. There is always one more piece than
there are separators.
-/
def split (isSeparator : Char → Bool) (t : Text) : List Piece := pieces false isSeparator t

def splitNonempty (isSeparator : Char → Bool) (t : Text) : List Piece := pieces true isSeparator t

def words (t : Text) : List Piece :=
  go none 0 t
where
  -- The runs from position `i` on; `run` is the one that is being read, in reverse.
  go (run : Option Piece) (i : Nat) : Text → List Piece
    | [] => finished run
    | c :: cs =>
      if isWordChar c then go (some (grown run i c)) (i + 1) cs
      else finished run ++ go none (i + 1) cs
  grown (run : Option Piece) (i : Nat) (c : Char) : Piece :=
    match run with
    | some p => ⟨p.start, c :: p.text⟩
    | none => ⟨i, [c]⟩
  finished (run : Option Piece) : List Piece :=
    (run.map fun p => ⟨p.start, p.text.reverse⟩).toList

def nameAndContainer (t : Text) : Text × Option Text :=
  let name := (t.reverse.takeWhile (· != '.')).reverse
  if t.contains '.' then (name, some (t.take (t.length - name.length - 1))) else (t, none)

end Text
end IdentSearch
