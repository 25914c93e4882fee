import IdentSearch.Files
import IdentSearch.Text.Lines
import IdentSearch.Yaml.Node

/-!
YAML documents as values. A text that is not well-formed has no value, and the first fault is reported: faults
of its tokens and their order come first, then those of the values, the less deeply nested ones before the others.
-/

namespace IdentSearch.Yaml

def skipEnds : (fuel : Nat) → Reading Unit
  | 0 => return
  | fuel + 1 => do
    if (← Reading.peek).token = .documentEnd then
      let _ ← Reading.take
      skipEnds fuel

def readDirectives : (fuel : Nat) → (versionGiven : Bool) → Reading Unit
  | 0, _ => return
  | fuel + 1, versionGiven => do
    let t ← Reading.peek
    match t.token with
    | .directive version =>
      let _ ← Reading.take
      if let some major := version then
        if versionGiven then Reading.fail none .secondVersion t.start
        else if major ≠ 1 then Reading.fail none .otherVersion t.start
      readDirectives fuel (versionGiven || version.isSome)
    | _ => return

def startDocument (fuel : Nat) : Reading (Option Place) := do
  skipEnds fuel
  let first ← Reading.peek
  if first.token = .textEnd then return none
  else
    readDirectives fuel false
    let t ← Reading.peek
    if t.token = .documentStart then
      let _ ← Reading.take
      return some first.start
    else Reading.fail none (.expectedDocument t.token) t.start

def rootNode (announced : Bool) (fuel : Nat) : Reading Node := do
  let t ← Reading.peek
  let isMissing := match t.token with
    | .directive _ => true
    | .documentStart => true
    | .documentEnd => true
    | .textEnd => true
    | _ => false
  if announced && isMissing then return emptyNode t.start else node true false 0 fuel

def onlyDocument (announced : Bool) (fuel : Nat) : Reading Node := do
  let root ← rootNode announced fuel
  if (← Reading.peek).token = .documentEnd then
    let _ ← Reading.take
  match ← startDocument fuel with
  | some other => Reading.fail (some (.document, some root.start)) .secondDocument other
  | none => return root

def document? (fuel : Nat) : Reading (Option Node) := do
  let first ← Reading.peek
  let announced := match first.token with
    | .directive _ => true
    | .documentStart => true
    | .textEnd => true
    | _ => false
  if announced then
    match ← startDocument fuel with
    | some _ => return some (← onlyDocument true fuel)
    | none => return none
  else return some (← onlyDocument false fuel)

def firstFault : List (Nat × Malformed) → Option (Nat × Malformed)
  | [] => none
  | f :: fs =>
    match firstFault fs with
    | none => some f
    | some g => if f.1 ≤ g.1 then some f else some g

def rootValue (fuel : Nat) : Reading Value := do
  let value ← match ← document? fuel with
    | none => pure Value.null
    | some root => notKey 0 root
  match firstFault (← get).faults with
  | some (_, fault) => throw fault
  | none => return value

def parse (t : Text) : Except Malformed Value :=
  match (t.dropWhile isAllowed).head? with
  | some c => .error (.character c (t.takeWhile isAllowed).length)
  | none => (rootValue (8 * t.length + 8)).run' { tokens := Tokens.start t }

-- Why a text has no value. Its form can be wrong, or the value of one of its parts, which is another sort of error.
inductive Failure
  | malformed (message : String)
  | raised (kind message : String)
deriving DecidableEq, Repr

def Malformed.failure (file : Text) : Malformed → Failure
  | .scalar reason => .raised "ValueError" reason
  | m => .malformed (m.message (String.ofList file))

-- The value that a file of some name holds. Bytes that are no text are noticed before anything else.
def load (file : Text) : Content → Except Failure Value
  | .text t => (parse t.normalizeBreaks).mapError (Malformed.failure file)
  | .undecodable reason => .error (.raised "UnicodeDecodeError" reason)

end IdentSearch.Yaml
