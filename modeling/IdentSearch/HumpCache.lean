import IdentSearch.Decimal.Binary
import IdentSearch.Hump

/-!
A store of word humps. The same candidates come back while a user types, so the humps of each candidate
are computed once and kept until the store is cleared or closed.
-/

namespace IdentSearch

-- A way to compute humps. Computing those of some texts may close the store that asked for them.
structure Breaker where
  humps : Text → Spans
  closesOn : Text → Bool

def Breaker.words : Breaker := ⟨wordHumps, fun _ => false⟩

structure HumpCache where
  entries : List (Text × Spans) := []
  hits : Nat := 0
  misses : Nat := 0
  computed : Nat := 0
  closed : Bool := false

namespace HumpCache

def size (c : HumpCache) : Nat := c.entries.length

def find? (c : HumpCache) (t : Text) : Option Spans := c.entries.lookup t

def contains (c : HumpCache) (t : Text) : Bool := (c.find? t).isSome

def lookup (t : Text) : StateM HumpCache (Option Spans) := fun c =>
  match c.find? t with
  | some spans => (some spans, { c with hits := c.hits + 1 })
  | none => (none, { c with misses := c.misses + 1 })

def clear : StateM HumpCache Nat := fun c =>
  (c.size, { c with entries := [] })

def close : StateM HumpCache Nat := fun c =>
  (c.size, { c with entries := [], closed := true })

def compute (b : Breaker) (t : Text) : StateM HumpCache Spans := fun c =>
  let c := { c with computed := c.computed + 1 }
  (b.humps t, if b.closesOn t then (close c).2 else c)

/-- Keeps the humps of a text unless the store is closed, and returns the humps that are kept. -/
def store (t : Text) (spans : Spans) : StateM HumpCache Spans := fun c =>
  if c.closed then (spans, c)
  else match c.find? t with
    | some kept => (kept, c)
    | none => (spans, { c with entries := c.entries ++ [(t, spans)] })

def get (b : Breaker) (t : Text) : StateM HumpCache Spans := do
  match ← lookup t with
  | some spans => return spans
  | none => store t (← compute b t)

/-- The share of hits in millionths. The share is kept in binary before it is rounded. -/
def hitMillionths (c : HumpCache) : Nat :=
  let total := c.hits + c.misses
  if total = 0 then 0 else (Binary.nearest c.hits total).roundTo 6

def hitRate (c : HumpCache) : String :=
  let n := c.hitMillionths
  let decimals := toString (n % 1000000)
  toString (n / 1000000) ++ "." ++ String.ofList (List.replicate (6 - decimals.length) '0') ++ decimals

end HumpCache
end IdentSearch
