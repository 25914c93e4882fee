import IdentSearch.Text.Lowercase

/-!
Texts with marks for their style. A mark is a name in brackets, and a slash before the name ends the style. The
styles have no effect on what is written, so that marks are only left out, but they must be balanced.
-/

namespace IdentSearch.Terminal

-- What is written of a text with marks, or why its marks are not balanced.
abbrev Markup := Text → Except String Text

structure Mark where
  name : Text
  value : Option Text
  position : Nat
deriving DecidableEq, Repr

namespace Mark

def written (m : Mark) : Text :=
  '[' :: (m.name ++ (m.value.map ('=' :: ·)).getD [] ++ [']'])

def canStart (c : Char) : Bool := Text.between 'a' 'z' c || c = '#' || c = '/' || c = '@'

def body? : Text → Option Text
  | '[' :: rest =>
    let body := rest.takeWhile fun c => c != '[' && c != ']'
    if body.head?.any canStart && (rest.drop body.length).head? == some ']' then some body else none
  | _ => none

def ofBody (body : Text) (position : Nat) : Mark :=
  let name := body.takeWhile (· != '=')
  ⟨name, if name.length = body.length then none else some (body.drop (name.length + 1)), position⟩

/-- The name of a style that a mark ends, if it ends one. It is empty if the last style is meant. -/
def ended? (m : Mark) : Option Text :=
  match m.name with
  | '/' :: name => some (Text.trim name)
  | _ => none

end Mark

inductive MarkedPart
  | plain (t : Text)
  | mark (m : Mark)

def unescapeBrackets : Text → Text
  | '\\' :: '[' :: cs => '[' :: unescapeBrackets cs
  | c :: cs => c :: unescapeBrackets cs
  | [] => []

/--
The parts of a text from a position on, of which the reverse of `taken` belongs to the first. Of backslashes before
a mark two stand for one, and one that is left takes the mark's meaning away.
-/
def markedParts (position : Nat) (taken : Text) : (fuel : Nat) → Text → List MarkedPart
  | 0, _ => [.plain (unescapeBrackets taken.reverse)]
  | _ + 1, [] => [.plain (unescapeBrackets taken.reverse)]
  | fuel + 1, c :: cs =>
    let escapes := (c :: cs).takeWhile (· = '\\')
    let behind := (c :: cs).drop escapes.length
    match Mark.body? behind with
    | some body =>
      let rest := behind.drop (body.length + 2)
      let next := position + escapes.length + body.length + 2
      let slashes := List.replicate (escapes.length / 2) '\\'
      let part :=
        if escapes.length % 2 = 1 then .plain ('[' :: (body ++ [']']))
        else .mark (Mark.ofBody body (position + escapes.length))
      .plain (unescapeBrackets taken.reverse) :: .plain slashes :: part :: markedParts next [] fuel rest
    | none =>
      if escapes.isEmpty then markedParts (position + 1) (c :: taken) fuel cs
      else markedParts (position + escapes.length) (escapes.reverse ++ taken) fuel behind

-- Names that mean the same style.
def synonyms : List (String × String) :=
  [("b", "bold"), ("c", "conceal"), ("d", "dim"), ("i", "italic"), ("o", "overline"), ("r", "reverse"),
    ("s", "strike"), ("u", "underline"), ("uu", "underline2")]

def styleOf (name : Text) : Text :=
  let name := (Text.trim name).lowercase
  (synonyms.find? fun s => s.1.toList == name).elim name fun s => s.2.toList

def unmatchedMessage (m : Mark) : String :=
  "closing tag '" ++ String.ofList m.written ++ "' at position " ++ toString m.position
    ++ " doesn't match any open tag"

def needlessMessage (m : Mark) : String :=
  "closing tag '[/]' at position " ++ toString m.position ++ " has nothing to close"

-- What is written of some parts, while some styles, the last first, have begun.
def writeParts (styles : List Text) : List MarkedPart → Except String Text
  | [] => .ok []
  | .plain t :: parts => (writeParts styles parts).map (t ++ ·)
  | .mark m :: parts =>
    match m.ended? with
    | none => writeParts (styleOf m.name :: styles) parts
    | some [] =>
      match styles with
      | [] => .error (needlessMessage m)
      | _ :: styles => writeParts styles parts
    | some name =>
      if styles.contains (styleOf name) then writeParts (styles.erase (styleOf name)) parts
      else .error (unmatchedMessage m)

def withoutMarks : Markup := fun t => writeParts [] (markedParts 0 [] (t.length + 1) t)

end IdentSearch.Terminal
