import IdentSearch.Yaml.Tag
import IdentSearch.Yaml.Tokens.Fetch

/-!
Reading values from the tokens of a YAML document: what is remembered on the way, what can stand before a value,
and how the entries of a map are gathered.
-/

namespace IdentSearch.Yaml

-- A part of a document that has a value, or a reason why it has none.
structure Node where
  value : Value
  start : Place
  keyTag : Option Text := none
  wrong : Option String := none

structure Reader where
  tokens : Tokens
  anchors : List (Text × Node) := []
  faults : List (Nat × Malformed) := []

abbrev Reading := StateT Reader (Except Malformed)

namespace Reading

def peek : Reading PlacedToken := do
  let (token, tokens) ← liftM (m := Except Malformed) (← get).tokens.peek
  modify fun r => { r with tokens := tokens }
  return token

def take : Reading PlacedToken := do
  let token ← peek
  modify fun r => { r with tokens := r.tokens.drop }
  return token

def fail {α : Type} (context : Option (Context × Option Place)) (fault : Fault) (place : Place) : Reading α :=
  throw (.fault context fault place)

def note (depth : Nat) (context : Option (Context × Option Place)) (fault : Fault) (place : Place)
    : Reading Unit :=
  modify fun r => { r with faults := r.faults ++ [(depth, .fault context fault place)] }

-- Notes why a scalar has no value, if it has none.
def noteScalar (depth : Nat) (n : Node) : Reading Unit := do
  if let some reason := n.wrong then
    modify fun r => { r with faults := r.faults ++ [(depth, .scalar reason)] }

end Reading

structure Properties where
  start : Option Place := none
  anchor : Option Text := none
  tag : Option (Option Text × Text × Place) := none

def readProperties : (fuel : Nat) → Properties → Reading Properties
  | 0, p => return p
  | fuel + 1, p => do
    let t ← Reading.peek
    match t.token with
    | .anchor name =>
      if p.anchor.isSome then return p
      let _ ← Reading.take
      readProperties fuel { p with start := p.start <|> some t.start, anchor := some name }
    | .tag handle suffix =>
      if p.tag.isSome then return p
      let _ ← Reading.take
      readProperties fuel { p with start := p.start <|> some t.start, tag := some (handle, suffix, t.start) }
    | _ => return p

def Properties.fullTag (p : Properties) : Reading (Option Text) :=
  match p.tag with
  | none => return none
  | some (handle, suffix, place) =>
    match fullTag? handle suffix with
    | some tag => return some tag
    | none =>
      Reading.fail (some (.tagged, p.start)) (.unknownHandle (handle.getD [])) place

def tagged (depth : Nat) (tag : Option Text) (n : Node) : Reading Node := do
  match tag with
  | none => return n
  | some tag =>
    if tag != ['!'] && tag != commonTags ++ (tagOf n.value).toList then
      Reading.note depth none (.unknownTag tag) n.start
    return { n with keyTag := none }

def emptyNode (place : Place) : Node := { value := .null, start := place }

def scalarNode (tag : Option Text) (text : Text) (plain : Bool) (start : Place) : Node :=
  match scalarValue tag text plain with
  | .ok value => { value := value, start := start, keyTag := if plain then keyTag? text else none }
  | .error reason => { value := .text text, start := start, wrong := some reason }

def notKey (depth : Nat) (n : Node) : Reading Value := do
  Reading.noteScalar depth n
  match n.keyTag with
  | none => return n.value
  | some tag =>
    Reading.note depth none (.unknownTag tag) n.start
    return n.value

def anchored (name : Text) (place : Place) : Reading Node := do
  match (← get).anchors.lookup name with
  | some n => return n
  | none => Reading.fail none (.unknownReference name) place

def Properties.checkAnchor (p : Properties) (start : Place) : Reading Unit := do
  match p.anchor with
  | none => return
  | some name =>
    match (← get).anchors.lookup name with
    | some earlier => Reading.fail (some (.namesake name, some earlier.start)) .secondAnchor start
    | none => return

def Properties.attach (p : Properties) (n : Node) : Reading Node := do
  if let some name := p.anchor then
    modify fun r => { r with anchors := (name, n) :: r.anchors }
  return n

-- The entries of a map: those that are merged into it, and its own.
structure Gathered where
  merged : Entries := []
  own : Entries := []

def Gathered.value (g : Gathered) : Value := .map (g.merged.update g.own)

/-- The entries that a value gives to a map into which it is merged. Of a list the first maps are the strongest. -/
def mergedEntries (depth : Nat) (start : Place) (n : Node) : Reading Entries :=
  match n.value with
  | .map entries => return entries
  | .list items =>
    items.foldlM (fun (acc : Entries) item =>
      match item with
      | .map entries => return Entries.update entries acc
      | v => do
        Reading.note depth (some (.entries, some start)) (.unmergeableItem (form v)) n.start
        return acc) []
  | v => do
    Reading.note depth (some (.entries, some start)) (.unmergeable (form v)) n.start
    return []

def Gathered.add (depth : Nat) (start : Place) (g : Gathered) (key value : Node) : Reading Gathered := do
  if key.keyTag == keyTag? mergeSpelling then
    return { g with merged := g.merged.update (← mergedEntries depth start value) }
  Reading.noteScalar depth key
  if key.value.canBeKey then
    return { g with own := g.own.put key.value (← notKey depth value) }
  else
    Reading.note depth (some (.entries, some start)) .compositeKey key.start
    let _ ← notKey depth value
    return g

def takeComma (context : Context) (closing : Char) (opened : Place) : Reading Unit := do
  let t ← Reading.peek
  if t.token = .comma then
    let _ ← Reading.take
  else Reading.fail (some (context, some opened)) (.expectedComma closing t.token) t.start

end IdentSearch.Yaml
