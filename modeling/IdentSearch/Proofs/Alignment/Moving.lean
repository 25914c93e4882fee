import Mathlib.Data.List.Forall2
import IdentSearch.Alignment
import IdentSearch.Proofs.Except
import IdentSearch.Proofs.Span.Normal

/-!
Alignments in a text of which the candidate is only a part: every span keeps its length, and its start is moved
by the same distance. Only a distance below zero can lead out of the text.
-/

namespace IdentSearch

def Span.IsMoved (distance : Int) (s moved : Span) : Prop :=
  (moved.start : Int) = s.start + distance ∧ moved.length = s.length

theorem Span.move_eq_ok {distance : Int} {s moved : Span}
    : s.move distance = .ok moved ↔ s.IsMoved distance moved := by
  rcases s with ⟨start, length⟩
  rcases moved with ⟨start', length'⟩
  simp only [move, ofInts, IsMoved]
  split
  . simp only [reduceCtorEq, false_iff]
    omega
  . rw [if_neg (by omega), Except.ok.injEq, mk.injEq, Int.toNat_natCast]
    omega

theorem Span.IsMoved.eq_iff {distance : Int} {s moved u : Span} (h : s.IsMoved distance moved)
    : s.IsMoved distance u ↔ u = moved := by
  rcases u with ⟨start, length⟩
  rcases moved with ⟨start', length'⟩
  simp only [IsMoved, mk.injEq] at h ⊢
  omega

theorem Span.mem_iff_of_forall₂_isMoved {distance : Int} {spans moved : Spans} {u : Span}
    (h : List.Forall₂ (Span.IsMoved distance) spans moved)
    : u ∈ moved ↔ ∃ s ∈ spans, s.IsMoved distance u := by
  induction h with
  | nil => simp
  | cons hmoved _ ih => rw [List.mem_cons, ih, List.exists_mem_cons_iff, hmoved.eq_iff]

namespace Alignment

variable {distance : Int} {a b : Alignment} {o : Option Alignment}

structure IsMoved (distance : Int) (a b : Alignment) : Prop where
  fromStart_eq : b.fromStart = a.fromStart
  contiguous_eq : b.contiguous = a.contiguous
  toEnd_eq : b.toEnd = a.toEnd
  spans : ∃ moved, List.Forall₂ (Span.IsMoved distance) a.spans moved ∧ b.spans = Spans.normalize moved

theorem isMoved_of_move_eq_ok (h : a.move distance = .ok b) : a.IsMoved distance b := by
  rcases Except.bind_eq_ok.mp h with ⟨moved, hmoved, heq⟩
  cases heq
  refine ⟨rfl, rfl, rfl, moved, ?_, rfl⟩
  apply (Except.mapM_eq_ok.mp hmoved).imp
  intro s u hmove
  exact Span.move_eq_ok.mp hmove

theorem kind_of_move_eq_ok (h : a.move distance = .ok b) : b.kind = a.kind := by
  have hmoved := isMoved_of_move_eq_ok h
  rw [kind, kind, hmoved.fromStart_eq, hmoved.contiguous_eq, hmoved.toEnd_eq]

theorem move_eq_error {e : Span.Error} (h : a.move distance = .error e) : distance < 0 := by
  by_contra hge
  obtain ⟨n, rfl⟩ := Int.eq_ofNat_of_zero_le (Int.not_lt.mp hge)
  have hmove := move_natCast n a
  rw [h] at hmove
  cases hmove

theorem mapM_move_eq_some (h : o.mapM (·.move distance) = .ok (some b))
    : ∃ a, o = some a ∧ a.move distance = .ok b := by
  cases o with
  | none => cases h
  | some a =>
    rw [Option.mapM_some] at h
    rcases Except.map_eq_ok.mp h with ⟨moved, hmove, hsome⟩
    cases hsome
    exact ⟨a, rfl, hmove⟩

theorem isSome_of_mapM_move (distance : Int) (a : Alignment)
    : match (some a).mapM (·.move distance) with
      | .ok result => result.isSome = true
      | .error _ => distance < 0 := by
  rw [Option.mapM_some]
  cases hmove : a.move distance with
  | error e => exact move_eq_error hmove
  | ok b => rfl

end Alignment
end IdentSearch
