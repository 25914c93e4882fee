import IdentSearch.Text.Basic

/-!
Runs of positions in a text, and the normal form of a list of them: non-empty runs in increasing order
with a gap between any two neighbours.
-/

namespace IdentSearch

structure Span where
  start : Nat
  length : Nat
deriving DecidableEq, Repr

namespace Span

inductive Error
  | negativeStart (start : Int)
  | negativeLength (length : Int)
deriving DecidableEq, Repr

def Error.message : Error → String
  | negativeStart n => s!"Span start must be non-negative, got {n}"
  | negativeLength n => s!"Span length must be non-negative, got {n}"

def ofInts (start length : Int) : Except Error Span :=
  if start < 0 then .error (.negativeStart start)
  else if length < 0 then .error (.negativeLength length)
  else .ok ⟨start.toNat, length.toNat⟩

def stop (s : Span) : Nat := s.start + s.length

def isEmpty (s : Span) : Bool := s.length == 0

def Covers (s : Span) (i : Nat) : Prop := s.start ≤ i ∧ i < s.stop

instance (s : Span) (i : Nat) : Decidable (s.Covers i) := by unfold Covers; infer_instance

def overlaps (s t : Span) : Bool := decide (max s.start t.start < min s.stop t.stop)

def precedes (s t : Span) : Bool :=
  decide (s.start < t.start ∨ (s.start = t.start ∧ s.length < t.length))

def textOf (s : Span) (t : Text) : Text := t.slice s.start s.length

def shift (n : Nat) (s : Span) : Span := ⟨s.start + n, s.length⟩

def move (distance : Int) (s : Span) : Except Error Span :=
  ofInts (s.start + distance) s.length

@[simp]
theorem shift_start (n : Nat) (s : Span) : (s.shift n).start = s.start + n := rfl

@[simp]
theorem shift_length (n : Nat) (s : Span) : (s.shift n).length = s.length := rfl

@[simp]
theorem shift_zero (s : Span) : s.shift 0 = s := rfl

theorem move_natCast (n : Nat) (s : Span) : s.move n = .ok (s.shift n) := by
  unfold move ofInts shift
  split
  . omega
  . split
    . omega
    . congr

end Span

abbrev Spans := List Span

namespace Spans

def insert (s : Span) : Spans → Spans
  | [] => [s]
  | t :: ts => if t.precedes s then t :: insert s ts else s :: t :: ts

def sort : Spans → Spans
  | [] => []
  | s :: ss => insert s (sort ss)

/-- Joins to `current` the spans that overlap or touch it, and so on with the rest of a sorted list. -/
def coalesce (current : Span) : Spans → Spans
  | [] => [current]
  | s :: ss =>
    if s.start ≤ current.stop then
      coalesce ⟨current.start, max current.stop s.stop - current.start⟩ ss
    else current :: coalesce s ss

def normalize (spans : Spans) : Spans :=
  match sort (spans.filter fun s => !s.isEmpty) with
  | [] => []
  | s :: ss => coalesce s ss

def union (first second : Spans) : Spans := normalize (first ++ second)

theorem mapM_move_natCast (n : Nat) (spans : Spans)
    : spans.mapM (·.move (n : Int)) = (.ok (spans.map (·.shift n)) : Except Span.Error Spans) := by
  induction spans with
  | nil => rfl
  | cons s ss ih =>
    rw [List.mapM_cons, ih, Span.move_natCast]
    rfl

def Covers (spans : Spans) (i : Nat) : Prop := ∃ s ∈ spans, s.Covers i

end Spans
end IdentSearch
