import IdentSearch.Text.Basic

/-!
Files by path.
-/

namespace IdentSearch

-- What a file holds: a text, or bytes that are no text, of which the reader of texts says what is wrong with them.
inductive Content
  | text (t : Text)
  | undecodable (reason : String)
deriving DecidableEq, Repr

abbrev Files := List (Text × Content)

namespace Files

-- A null character would end a path.
def isPossible (path : Text) : Bool := !path.contains '\x00'

def pieces : Text → List Text
  | [] => [[]]
  | c :: cs =>
    match pieces cs with
    | [] => [[c]]
    | first :: others => if c = '/' then [] :: first :: others else (c :: first) :: others

def staysHere (piece : Text) : Bool := piece.isEmpty || piece == ['.']

def goesUp (piece : Text) : Bool := piece == ['.', '.']

-- The pieces of a path that lead to another place.
def components (path : Text) : List Text := (pieces path).filter fun c => !staysHere c

/--
The slashes at the beginning of a path that are no superfluous ones: one for an absolute path, but two where
there are exactly two, because such a path may have a meaning of its own.
-/
def root : Text → Text
  | '/' :: '/' :: '/' :: _ => ['/']
  | '/' :: '/' :: _ => ['/', '/']
  | '/' :: _ => ['/']
  | _ => []

def assemble (root : Text) (components : List Text) : Text :=
  let path := root ++ (components.intersperse ['/']).flatten
  if path.isEmpty then ['.'] else path

/--
The path whose first component, if it names a user behind a tilde, is replaced by the home of that user. It is
none if the user has no home.
-/
def expandHome? (home : Text → Option Text) (path : Text) : Option Text :=
  match root path, components path with
  | [], ('~' :: user) :: rest => (home user).map fun h => assemble (root h) (components h ++ rest)
  | root, components => some (assemble root components)

-- Where a path leads. The names of the directories stand in reverse, and above a relative path there may be others.
structure Place where
  isAbsolute : Bool
  trail : List Text
deriving DecidableEq, Repr

namespace Place

def above (p : Place) : Place :=
  match p.trail with
  | [] => if p.isAbsolute then p else { p with trail := [['.', '.']] }
  | name :: names => if goesUp name then { p with trail := ['.', '.'] :: p.trail } else { p with trail := names }

def enter (p : Place) (piece : Text) : Place :=
  if staysHere piece then p else if goesUp piece then p.above else { p with trail := piece :: p.trail }

def start (path : Text) : Place := ⟨path.head? == some '/', []⟩

def ofPath (path : Text) : Place := (pieces path).foldl enter (start path)

def isAbove (p q : Place) : Bool := p.isAbsolute == q.isAbsolute && p.trail.isSuffixOf q.trail && p != q

end Place

inductive Entry
  | missing
  | directory
  | file (content : Content)
deriving DecidableEq, Repr

def content? (files : Files) (place : Place) : Option Content :=
  (files.find? fun f => Place.ofPath f.1 == place).map (·.2)

def isAbove (files : Files) (place : Place) : Bool := files.any fun f => place.isAbove (Place.ofPath f.1)

-- No way leads through a file, not even to where it ends. On the way up nothing can be missing.
def follow (files : Files) (place : Place) : List Text → Entry
  | [] => .directory
  | piece :: rest =>
    let next := place.enter piece
    if staysHere piece || goesUp piece then follow files next rest
    else
      match files.content? next with
      | some content => if rest.isEmpty then .file content else .missing
      | none => if files.isAbove next then follow files next rest else .missing

-- What is found at a path. A directory is there if it is above a file or above all of them.
def entry (files : Files) (path : Text) : Entry :=
  if path.isEmpty then .missing else follow files (Place.start path) (pieces path)

def erase (path : Text) (files : Files) : Files :=
  files.filter fun f => Place.ofPath f.1 != Place.ofPath path

def write (path : Text) (content : Content) (files : Files) : Files := files.erase path ++ [(path, content)]

theorem content?_erase (path : Text) (files : Files) (place : Place)
    : (files.erase path).content? place = if place = Place.ofPath path then none else files.content? place := by
  unfold content? erase
  rw [List.find?_filter]
  split
  . next heq =>
    subst heq
    simp
  . next hne =>
    congr 2
    funext f
    by_cases hplace : Place.ofPath f.1 = place
    . simp [hplace, hne]
    . simp [hplace]

-- What is written at a path is found at all paths that lead there, and nothing else is touched.
theorem content?_write (path : Text) (content : Content) (files : Files) (place : Place)
    : (files.write path content).content? place
        =
      if place = Place.ofPath path then some content else files.content? place := by
  have herase := content?_erase path files place
  unfold content? at herase ⊢
  rw [write, List.find?_append, Option.map_or, herase]
  split
  . next heq => simp [heq]
  . next hne => simp [Ne.symm hne]

end Files
end IdentSearch
