import IdentSearch.Yaml.Reading

/-!
The values in a YAML document: scalars, lists and maps, in brackets or by indentation.
-/

namespace IdentSearch.Yaml

mutual

/--
A value at the next token. Only where `block` holds can it be made by indentation, and only where `inKey` holds
can it be a list whose items are not indented. `depth` counts the lists and maps around it.
-/
def node (block inKey : Bool) (depth : Nat) : (fuel : Nat) → Reading Node
  | 0 => return emptyNode ⟨0, 0⟩
  | fuel + 1 => do
    let first ← Reading.peek
    match first.token with
    | .reference name =>
      let _ ← Reading.take
      anchored name first.start
    | _ =>
      let properties ← readProperties 3 {}
      let tag ← properties.fullTag
      let t ← Reading.peek
      let start := properties.start.getD t.start
      properties.checkAnchor start
      match ← content block inKey depth tag t.token start fuel with
      | some n => properties.attach (← tagged depth tag n)
      | none =>
        if properties.start.isNone then
          Reading.fail (some (if block then .blockNode else .flowNode, some start)) (.expectedContent t.token)
            t.start
        else properties.attach (← tagged depth tag (scalarNode tag [] true start))
termination_by structural fuel => fuel

def content (block inKey : Bool) (depth : Nat) (tag : Option Text) (token : Token) (start : Place)
    : (fuel : Nat) → Reading (Option Node)
  | 0 => return none
  | fuel + 1 => do
    match token with
    | .scalar text plain =>
      let _ ← Reading.take
      return some (scalarNode tag text plain start)
    | .listOpen =>
      let t ← Reading.take
      return some (← flowList true t.start (depth + 1) [] start fuel)
    | .mapOpen =>
      let t ← Reading.take
      return some (← flowMap true t.start (depth + 1) {} start fuel)
    | .blockListStart =>
      if block then
        let t ← Reading.take
        return some (← blockList t.start (depth + 1) [] start fuel)
      else return none
    | .blockMapStart =>
      if block then
        let t ← Reading.take
        return some (← blockMap t.start (depth + 1) {} start fuel)
      else return none
    | .item => if inKey then return some (← plainList (depth + 1) [] start fuel) else return none
    | _ => return none
termination_by structural fuel => fuel

def blockList (opened : Place) (depth : Nat) (items : List Value) (start : Place) : (fuel : Nat) → Reading Node
  | 0 => return { value := .list items, start := start }
  | fuel + 1 => do
    let t ← Reading.peek
    match t.token with
    | .item =>
      let _ ← Reading.take
      let next ← Reading.peek
      let n ← match next.token with
        | .item => pure (emptyNode t.stop)
        | .blockEnd => pure (emptyNode t.stop)
        | _ => node true false depth fuel
      blockList opened depth (items ++ [← notKey depth n]) start fuel
    | .blockEnd =>
      let _ ← Reading.take
      return { value := .list items, start := start }
    | other => Reading.fail (some (.blockList, some opened)) (.expectedBlockEnd other) t.start
termination_by structural fuel => fuel

def plainList (depth : Nat) (items : List Value) (start : Place) : (fuel : Nat) → Reading Node
  | 0 => return { value := .list items, start := start }
  | fuel + 1 => do
    let t ← Reading.peek
    match t.token with
    | .item =>
      let _ ← Reading.take
      let next ← Reading.peek
      let n ← match next.token with
        | .item => pure (emptyNode t.stop)
        | .key => pure (emptyNode t.stop)
        | .value => pure (emptyNode t.stop)
        | .blockEnd => pure (emptyNode t.stop)
        | _ => node true false depth fuel
      plainList depth (items ++ [← notKey depth n]) start fuel
    | _ => return { value := .list items, start := start }
termination_by structural fuel => fuel

def blockPart (depth : Nat) (behind : PlacedToken) : (fuel : Nat) → Reading Node
  | 0 => return emptyNode behind.stop
  | fuel + 1 => do
    let next ← Reading.peek
    match next.token with
    | .key => return emptyNode behind.stop
    | .value => return emptyNode behind.stop
    | .blockEnd => return emptyNode behind.stop
    | _ => node true true depth fuel
termination_by structural fuel => fuel

def blockMap (opened : Place) (depth : Nat) (g : Gathered) (start : Place) : (fuel : Nat) → Reading Node
  | 0 => return { value := g.value, start := start }
  | fuel + 1 => do
    let t ← Reading.peek
    match t.token with
    | .key =>
      let _ ← Reading.take
      let key ← blockPart depth t fuel
      let value ← blockValue depth fuel
      blockMap opened depth (← g.add depth start key value) start fuel
    | .blockEnd =>
      let _ ← Reading.take
      return { value := g.value, start := start }
    | other => Reading.fail (some (.blockMap, some opened)) (.expectedBlockEnd other) t.start
termination_by structural fuel => fuel

def blockValue (depth : Nat) : (fuel : Nat) → Reading Node
  | 0 => return emptyNode ⟨0, 0⟩
  | fuel + 1 => do
    let t ← Reading.peek
    match t.token with
    | .value =>
      let _ ← Reading.take
      blockPart depth t fuel
    | _ => return emptyNode t.start
termination_by structural fuel => fuel

def flowPart (closing : Token) (depth : Nat) (behind : PlacedToken) (isKey : Bool) : (fuel : Nat) → Reading Node
  | 0 => return emptyNode behind.stop
  | fuel + 1 => do
    let next ← Reading.peek
    if next.token = .comma || next.token = closing || (isKey && next.token = .value) then
      return emptyNode behind.stop
    else node false false depth fuel
termination_by structural fuel => fuel

def flowValue (closing : Token) (depth : Nat) : (fuel : Nat) → Reading Node
  | 0 => return emptyNode ⟨0, 0⟩
  | fuel + 1 => do
    let t ← Reading.peek
    match t.token with
    | .value =>
      let _ ← Reading.take
      flowPart closing depth t false fuel
    | _ => return emptyNode t.start
termination_by structural fuel => fuel

def flowList (first : Bool) (opened : Place) (depth : Nat) (items : List Value) (start : Place)
    : (fuel : Nat) → Reading Node
  | 0 => return { value := .list items, start := start }
  | fuel + 1 => do
    if (← Reading.peek).token = .listClose then
      let _ ← Reading.take
      return { value := .list items, start := start }
    else
      unless first do takeComma .flowList ']' opened
      let t ← Reading.peek
      match t.token with
      | .key =>
        let _ ← Reading.take
        let key ← flowPart .listClose (depth + 1) t true fuel
        let value ← flowValue .listClose (depth + 1) fuel
        let g ← Gathered.add (depth + 1) t.start {} key value
        flowList false opened depth (items ++ [g.value]) start fuel
      | .listClose =>
        let _ ← Reading.take
        return { value := .list items, start := start }
      | _ =>
        let n ← node false false depth fuel
        flowList false opened depth (items ++ [← notKey depth n]) start fuel
termination_by structural fuel => fuel

def flowMap (first : Bool) (opened : Place) (depth : Nat) (g : Gathered) (start : Place)
    : (fuel : Nat) → Reading Node
  | 0 => return { value := g.value, start := start }
  | fuel + 1 => do
    if (← Reading.peek).token = .mapClose then
      let _ ← Reading.take
      return { value := g.value, start := start }
    else
      unless first do takeComma .flowMap '\x7d' opened
      let t ← Reading.peek
      match t.token with
      | .key =>
        let _ ← Reading.take
        let key ← flowPart .mapClose depth t true fuel
        let value ← flowValue .mapClose depth fuel
        flowMap false opened depth (← g.add depth start key value) start fuel
      | .mapClose =>
        let _ ← Reading.take
        return { value := g.value, start := start }
      | _ =>
        let key ← node false false depth fuel
        let next ← Reading.peek
        flowMap false opened depth (← g.add depth start key (emptyNode next.start)) start fuel
termination_by structural fuel => fuel

end

end IdentSearch.Yaml
