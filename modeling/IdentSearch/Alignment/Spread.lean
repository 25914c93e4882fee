import IdentSearch.Alignment
import IdentSearch.Chunk

/-!
The alignment of a chunk that was typed without capitals. The chunk is spread over humps of the candidate,
each of which gives a beginning of its own: `cofipro` lies on `CodeFixProvider` as `co`, `fi` and `pro`.
Of all ways to spread it one with the strongest kind is chosen, and of those the one that comes first
hump by hump.

The search keeps one row for each rest of the pattern. A row lists the humps at which the rest can start,
so that a rest is looked at once and not once for each way to reach it.
-/

namespace IdentSearch

structure Slot where
  index : Nat
  start : Nat
  text : Text
  -- How many characters there are in earlier humps.
  before : Nat
deriving DecidableEq, Repr

namespace Slot

def ofHumps (f : Folding) (candidate : Text) (humps : Spans) : List Slot :=
  go 0 0 humps
where
  go (index before : Nat) : Spans → List Slot
    | [] => []
    | s :: ss =>
      let text := f.fold (s.textOf candidate)
      ⟨index, s.start, text, before⟩ :: go (index + 1) (before + text.length) ss

end Slot

namespace Spread

structure Start where
  hump : Nat
  -- Whether the rest can be spread without leaving out a hump.
  contiguous : Bool
  -- Whether it can be spread without leaving out a hump and up to the last one.
  toEnd : Bool
deriving DecidableEq, Repr

inductive Row
  | finished
  -- The humps at which the rest can start, in increasing order.
  | starts (list : List Start)

structure Offer where
  any : Bool
  -- It can be spread from the next hump on without leaving one out.
  contiguous : Bool
  -- It can be spread so up to the last hump.
  toEnd : Bool

namespace Offer

def nothing : Offer := ⟨false, false, false⟩

def either (o p : Offer) : Offer :=
  ⟨o.any || p.any, o.contiguous || p.contiguous, o.toEnd || p.toEnd⟩

end Offer

def Row.offer (isLast : Bool) (hump : Nat) : Row → Offer
  | finished => ⟨true, true, isLast⟩
  | starts list =>
    ⟨list.any fun s => decide (hump < s.hump),
      list.any fun s => s.hump == hump + 1 && s.contiguous,
      list.any fun s => s.hump == hump + 1 && s.toEnd⟩

/--
What a hump makes possible for a pattern, over all beginnings of the hump that the pattern begins with.
The rows belong to the rests of the pattern behind its first character, its second one, and so on.
-/
def offers (isLast : Bool) (hump : Nat) : (pattern text : Text) → List Row → Offer
  | c :: cs, d :: ds, row :: rows =>
    if c = d then (row.offer isLast hump).either (offers isLast hump cs ds rows) else .nothing
  | _, _, _ => .nothing

/--
Whether a hump is of use for the last `rest` characters of a pattern of the given length: the humps before
it must have room for the other characters, and it and the humps behind it for the rest.
-/
def fits (length total rest : Nat) (slot : Slot) : Bool :=
  decide (length ≤ slot.before + rest) && decide (slot.before + rest ≤ total)

def start? (slotCount length total : Nat) (pattern : Text) (rows : List Row) (slot : Slot)
    : Option Start :=
  if fits length total pattern.length slot then
    let o := offers (slot.index + 1 == slotCount) slot.index pattern slot.text rows
    if o.any then some ⟨slot.index, o.contiguous, o.toEnd⟩ else none
  else none

def table (slots : List Slot) (length total : Nat) : Text → List Row
  | [] => [.finished]
  | c :: cs =>
    let rows := table slots length total cs
    .starts (slots.filterMap (start? slots.length length total (c :: cs) rows)) :: rows

inductive Shape
  | any
  | contiguous
  | toEnd
deriving DecidableEq, Repr

namespace Start

def kind (s : Start) : Kind := Kind.ofShape (s.hump == 0) s.contiguous s.toEnd

def shape (s : Start) : Shape :=
  if s.toEnd then .toEnd else if s.contiguous then .contiguous else .any

def best : List Start → Option Start
  | [] => none
  | s :: ss => some (ss.foldl (fun b t => if b.kind.rank < t.kind.rank then t else b) s)

end Start

inductive Continuation
  | stop
  | next (hump : Nat)

def Row.continuation? (shape : Shape) (isLast : Bool) (hump : Nat) : Row → Option Continuation
  | finished => if shape = .toEnd && !isLast then none else some .stop
  | starts list =>
    let allowed (s : Start) : Bool :=
      match shape with
      | .any => decide (hump < s.hump)
      | .contiguous => s.hump == hump + 1 && s.contiguous
      | .toEnd => s.hump == hump + 1 && s.toEnd
    (list.find? allowed).map fun s => .next s.hump

/--
The humps over which a pattern is spread, with the number of characters that each one takes: always the
shortest beginning from which the rest can be spread in the given shape. `slot` is the current hump,
`taken` the number of its characters that are taken already, and `text` those that are not.
-/
def trace (slots : List Slot) (shape : Shape)
    : (pattern : Text) → List Row → (slot : Slot) → (text : Text) → (taken : Nat) →
      Option (List (Slot × Nat))
  | c :: cs, row :: rows, slot, d :: ds, taken =>
    if c = d then
      match row.continuation? shape (slot.index + 1 == slots.length) slot.index with
      | some .stop => some [(slot, taken + 1)]
      | some (.next hump) =>
        match slots[hump]? with
        | some next => (trace slots shape cs rows next next.text 0).map ((slot, taken + 1) :: ·)
        | none => none
      | none => trace slots shape cs rows slot ds (taken + 1)
    else none
  | _, _, _, _, _ => none

def roomOf (slots : List Slot) : Nat := slots.foldr (fun s n => s.text.length + n) 0

def search (slots : List Slot) (pattern : Text) : Option (Start × List (Slot × Nat)) :=
  match table slots pattern.length (roomOf slots) pattern with
  | .starts list :: rows =>
    match Start.best list with
    | some s =>
      match slots[s.hump]? with
      | some slot => (trace slots s.shape pattern rows slot slot.text 0).map ((s, ·))
      | none => none
    | none => none
  | _ => none

def align (f : Folding) (candidate : Text) (humps : Spans) (chunk : Chunk) : Option Alignment :=
  (search (Slot.ofHumps f candidate humps) (f.fold chunk.text)).map fun (s, shares) =>
    ⟨s.hump == 0, s.contiguous, s.toEnd, shares.map fun (slot, n) => ⟨slot.start, n⟩⟩

end Spread
end IdentSearch
