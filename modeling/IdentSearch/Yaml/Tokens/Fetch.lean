import IdentSearch.Yaml.Tokens

/-!
Reading the tokens of a YAML text, one of each kind and the next one of any kind.
-/

namespace IdentSearch.Yaml.Tokens

/-! ## One token of each kind -/

def fetchEnd (t : Tokens) : Except Malformed Tokens := do
  let t ← (t.closeBlocks fun _ => true).dropKey
  return { t with keyAllowed := false, keys := [], finished := true }.pushEmpty .textEnd

def fetchBoundary (token : Token) (t : Tokens) : Except Malformed Tokens := do
  let t ← (t.closeBlocks fun _ => true).dropKey
  return { t with keyAllowed := false }.push token (t.cursor.skip 3)

def fetchOpening (token : Token) (t : Tokens) : Except Malformed Tokens := do
  let t ← t.saveKey
  return { t with depth := t.depth + 1, keyAllowed := true }.push token t.cursor.next

def fetchClosing (token : Token) (t : Tokens) : Except Malformed Tokens := do
  let t ← t.dropKey
  return { t with depth := t.depth - 1, keyAllowed := false }.push token t.cursor.next

def fetchComma (t : Tokens) : Except Malformed Tokens := do
  let t ← t.dropKey
  return { t with keyAllowed := true }.push .comma t.cursor.next

def misplaced (fault : Fault) (t : Tokens) : Malformed := .fault none fault t.cursor.place

def fetchItem (t : Tokens) : Except Malformed Tokens := do
  if !t.inFlow && !t.keyAllowed then throw (t.misplaced .misplacedItem)
  let t ← (t.openBlock .blockListStart).dropKey
  return { t with keyAllowed := true }.push .item t.cursor.next

def fetchKey (t : Tokens) : Except Malformed Tokens := do
  if !t.inFlow && !t.keyAllowed then throw (t.misplaced .misplacedKey)
  let t ← (t.openBlock .blockMapStart).dropKey
  return { t with keyAllowed := !t.inFlow }.push .key t.cursor.next

def fetchValue (t : Tokens) : Except Malformed Tokens := do
  match t.keys.lookup t.depth with
  | some key =>
    let t := { t with keys := t.keys.filter fun k => k.1 != t.depth }.insert .key key
    let t :=
      if t.inFlow || !t.canIndent key.start.column then t
      else { t with indents := key.start.column :: t.indents }.insert .blockMapStart key
    return { t with keyAllowed := false }.push .value t.cursor.next
  | none =>
    if !t.inFlow && !t.keyAllowed then throw (t.misplaced .misplacedValue)
    let t ← (t.openBlock .blockMapStart).dropKey
    return { t with keyAllowed := !t.inFlow }.push .value t.cursor.next

def isNameChar (c : Char) : Bool :=
  Text.between '0' '9' c || Text.between 'A' 'Z' c || Text.between 'a' 'z' c || c = '-' || c = '_'

def unexpected (context : Context) (began : Place) (wanted : Wanted) (c : Cursor) : Malformed :=
  .fault (some (context, some began)) (.expected wanted c.rest.head?) c.place

def fetchName (context : Context) (token : Text → Token) (t : Tokens) : Except Malformed Tokens := do
  let t ← t.saveKey
  let began := t.cursor.place
  let name := t.cursor.next.run isNameChar
  let next := t.cursor.skip (name.length + 1)
  if name.isEmpty || !next.rest.head?.all fun c => isGap c || "?:,]\x7d%@`".toList.contains c then
    throw (unexpected context began .nameCharacter next)
  return { t with keyAllowed := false }.push (token name) next

def isTagChar (c : Char) : Bool := isNameChar c || ";/?:@&=+$,.!~*'()[]".toList.contains c

def readTag (c : Cursor) : Except Malformed (Option Text × Text × Cursor) := do
  let began := c.place
  let readSuffix (c : Cursor) : Except Malformed (Text × Cursor) :=
    let suffix := c.run isTagChar
    if suffix.isEmpty then .error (unexpected .tagParts began .tagName c) else .ok (suffix, c.skip suffix.length)
  if c.next.sees '<' then
    let (suffix, next) ← readSuffix (c.skip 2)
    if next.sees '>' then return (none, suffix, next.next)
    else throw (unexpected .tagParts began (.character '>') next)
  else if gapNext c.next.rest then return (none, ['!'], c.next)
  else
    let name := c.next.run isNameChar
    let behind := c.skip (name.length + 1)
    if (c.next.run fun x => x != ' ' && !isBreak x).contains '!' then
      if behind.sees '!' then
        let (suffix, next) ← readSuffix behind.next
        return (some ('!' :: (name ++ ['!'])), suffix, next)
      else throw (unexpected .tag began (.character '!') behind)
    else
      let (suffix, next) ← readSuffix c.next
      return (some ['!'], suffix, next)

def fetchTag (t : Tokens) : Except Malformed Tokens := do
  let t ← t.saveKey
  let (handle, suffix, next) ← readTag t.cursor
  if next.rest.head?.all fun c => c = ' ' || isBreak c then
    return { t with keyAllowed := false }.push (.tag handle suffix) next
  else throw (unexpected .tag t.cursor.place (.character ' ') next)

def fetchBlockText (joined : Bool) (t : Tokens) : Except Malformed Tokens := do
  let t ← t.dropKey
  let (text, next) ← readBlockText joined t.low t.cursor
  return { t with keyAllowed := true }.push (.scalar text false) next

def fetchQuoted (quote : Char) (t : Tokens) : Except Malformed Tokens := do
  let t ← t.saveKey
  let (text, next) ← readQuoted quote t.cursor.place (t.cursor.rest.length + 1) t.cursor.next
  return { t with keyAllowed := false }.push (.scalar text false) next

def fetchPlain (t : Tokens) : Except Malformed Tokens := do
  let t ← t.saveKey
  let s := readPlain t.inFlow t.low (t.cursor.rest.length + 1) false t.cursor
  return { t with keyAllowed := s.lineEnded }.push (.scalar s.text true) s.next

def readVersionNumber (began : Place) (c : Cursor) : Except Malformed (Nat × Cursor) :=
  let digits := c.run (Text.between '0' '9')
  if digits.isEmpty then .error (unexpected .directive began .digit c)
  else .ok (digits.foldl (fun n d => n * 10 + (d.toNat - '0'.toNat)) 0, c.skip digits.length)

def readVersion (began : Place) (c : Cursor) : Except Malformed (Nat × Cursor) := do
  let (major, c) ← readVersionNumber began c.skipSpaces
  if !c.sees '.' then throw (unexpected .directive began (.digitOr '.') c)
  let (_, c) ← readVersionNumber began c.next
  if c.rest.head?.all fun x => x = ' ' || isBreak x then return (major, c)
  else throw (unexpected .directive began (.digitOr ' ') c)

def fetchDirective (t : Tokens) : Except Malformed Tokens := do
  let t ← (t.closeBlocks fun _ => true).dropKey
  let began := t.cursor.place
  let name := t.cursor.next.run isNameChar
  let behind := t.cursor.skip (name.length + 1)
  if name.isEmpty || !behind.rest.head?.all fun c => c = ' ' || isBreak c then
    throw (unexpected .directive began .nameCharacter behind)
  if name == "YAML".toList then
    let (version, next) ← readVersion began behind
    let next ← skipLineEnd .directive began next
    return { t with keyAllowed := false }.push (.directive (some version)) next
  else
    return { t with keyAllowed := false }.push (.directive none) behind.skipLine.skipBreak

/-! ## The next token -/

def toNext (t : Tokens) : Tokens :=
  let c := if t.cursor.index == 0 && t.cursor.sees byteOrderMark then t.cursor.next else t.cursor
  let next := c.toToken
  { t with cursor := next, keyAllowed := t.keyAllowed || (!t.inFlow && next.line != c.line) }

def fetch (t : Tokens) : Except Malformed Tokens := do
  let t ← t.toNext.dropStaleKeys
  let t := t.closeBlocks fun column => decide (t.cursor.column < column)
  let c := t.cursor
  match c.rest with
  | [] => t.fetchEnd
  | x :: xs =>
    let alone := gapNext xs
    if x = '%' && c.column == 0 then t.fetchDirective
    else if c.seesMarker '-' then t.fetchBoundary .documentStart
    else if c.seesMarker '.' then t.fetchBoundary .documentEnd
    else if x = '[' then t.fetchOpening .listOpen
    else if x = '\x7b' then t.fetchOpening .mapOpen
    else if x = ']' then t.fetchClosing .listClose
    else if x = '\x7d' then t.fetchClosing .mapClose
    else if x = ',' then t.fetchComma
    else if x = '-' && alone then t.fetchItem
    else if x = '?' && (t.inFlow || alone) then t.fetchKey
    else if x = ':' && (t.inFlow || alone) then t.fetchValue
    else if x = '*' then t.fetchName .reference .reference
    else if x = '&' then t.fetchName .anchor .anchor
    else if x = '!' then t.fetchTag
    else if x = '|' && !t.inFlow then t.fetchBlockText false
    else if x = '>' && !t.inFlow then t.fetchBlockText true
    else if x = '\'' || x = '"' then t.fetchQuoted x
    else if startsPlain t.inFlow c.rest then t.fetchPlain
    else throw (.fault (some (.nextToken, none)) (.startsNoToken x) c.place)

/-- Reads tokens until the first one is there and cannot become a key any more. -/
def fill : (fuel : Nat) → Tokens → Except Malformed Tokens
  | 0, t => .ok t
  | fuel + 1, t =>
    if t.finished then .ok t
    else if t.queue.isEmpty then do fill fuel (← t.fetch)
    else do
      let t ← t.dropStaleKeys
      if t.keys.any fun k => k.2.number == t.taken then fill fuel (← t.fetch) else return t

def peek (t : Tokens) : Except Malformed (PlacedToken × Tokens) := do
  let t ← t.fill (t.cursor.rest.length + 2)
  return (t.queue.head?.getD ⟨.textEnd, t.cursor.place, t.cursor.place⟩, t)

def drop (t : Tokens) : Tokens := { t with queue := t.queue.tail, taken := t.taken + 1 }

end IdentSearch.Yaml.Tokens
