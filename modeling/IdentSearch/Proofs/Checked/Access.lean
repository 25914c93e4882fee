import Mathlib.Tactic.Common
import IdentSearch.Span
import IdentSearch.Alignment

/-!
Computations that check themselves. Wherever a computation takes the element at a position, or makes a span
of two numbers, it could go wrong; here it then stops with a fault. The computations on spans come first:
none of them stops, and they give what the unchecked ones give.
-/

namespace IdentSearch.Checked

inductive Fault
  | outOfRange (position : Int) (length : Nat)
  | badSpan (e : Span.Error)
  | noStep (position hump : Nat)
deriving DecidableEq, Repr

section
variable {α : Type}

/-- The element at a position. A position below zero is not counted from the end. -/
def nth (xs : List α) (i : Int) : Except Fault α :=
  if i < 0 then .error (.outOfRange i xs.length)
  else match xs[i.toNat]? with
    | some x => .ok x
    | none => .error (.outOfRange i xs.length)

theorem nth_eq_ok {xs : List α} {i : Int} {n : Nat} {x : α} (hi : i = n) (h : xs[n]? = some x)
    : nth xs i = .ok x := by
  subst hi
  unfold nth
  rw [if_neg (by omega), Int.toNat_natCast, h]

@[simp]
theorem ok_bind {β : Type} (x : α) (f : α → Except Fault β) : (Except.ok x >>= f) = f x := rfl

@[simp]
theorem pure_eq_ok (x : α) : (pure x : Except Fault α) = .ok x := rfl

end

/-! ### Spans -/

def span (start length : Int) : Except Fault Span := (Span.ofInts start length).mapError .badSpan

theorem span_eq_ok {start length : Int} {s n : Nat} (hs : start = s) (hn : length = n)
    : span start length = .ok ⟨s, n⟩ := by
  subst hs hn
  unfold span Span.ofInts
  rw [if_neg (by omega), if_neg (by omega)]
  rfl

/-- Joins to the positions from `start` up to `stop` the spans that overlap or touch them, and so on. -/
def coalesce (start stop : Nat) : Spans → Except Fault Spans
  | [] => return [← span start (stop - start)]
  | s :: ss =>
    if s.start ≤ stop then coalesce start (max stop s.stop) ss
    else return (← span start (stop - start)) :: (← coalesce s.start s.stop ss)

theorem coalesce_eq_ok (current : Span) (spans : Spans)
    : coalesce current.start current.stop spans = .ok (Spans.coalesce current spans) := by
  induction spans generalizing current with
  | nil =>
    unfold coalesce
    rw [span_eq_ok rfl (n := current.length) (by simp only [Span.stop]; omega)]
    rfl
  | cons s ss ih =>
    unfold coalesce Spans.coalesce
    split
    . rw [← ih]
      congr 1
      simp only [Span.stop]
      omega
    . rw [span_eq_ok rfl (n := current.length) (by simp only [Span.stop]; omega), ih s]
      rfl

def normalize (spans : Spans) : Except Fault Spans :=
  match Spans.sort (spans.filter fun s => !s.isEmpty) with
  | [] => return []
  | s :: ss => coalesce s.start s.stop ss

theorem normalize_eq_ok (spans : Spans) : normalize spans = .ok spans.normalize := by
  unfold normalize Spans.normalize
  cases Spans.sort (spans.filter fun s => !s.isEmpty) with
  | nil => rfl
  | cons s ss => exact coalesce_eq_ok s ss

def shift (offset : Nat) (spans : Spans) : Except Fault Spans := do
  normalize (← spans.mapM fun s => span (s.start + offset) s.length)

theorem mapM_eq_ok {α β : Type} {f : α → Except Fault β} {g : α → β} {xs : List α}
    (h : ∀ x ∈ xs, f x = .ok (g x)) : xs.mapM f = .ok (xs.map g) := by
  induction xs with
  | nil => rfl
  | cons x xs ih =>
    rw [List.mapM_cons, h x List.mem_cons_self, ih fun y hy => h y (List.mem_cons_of_mem x hy)]
    rfl

theorem shift_eq_ok (offset : Nat) (spans : Spans)
    : shift offset spans = .ok (Spans.normalize (spans.map (·.shift offset))) := by
  have hmoved : spans.mapM (fun s => span (s.start + offset) s.length)
      = .ok (spans.map (·.shift offset)) := by
    apply mapM_eq_ok
    intro s _
    exact span_eq_ok rfl rfl
  unfold shift
  rw [hmoved, ok_bind, normalize_eq_ok]

end IdentSearch.Checked
