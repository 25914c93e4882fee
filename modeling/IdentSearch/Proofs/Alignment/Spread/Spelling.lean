import Mathlib.Tactic.Common
import Mathlib.Algebra.Ring.Nat
import Mathlib.Data.List.SplitLengths
import IdentSearch.Alignment.Spread

/-!
The ways to spread a pattern over humps, described without a search: which humps are used, how many
characters each of them gives, and the kind of match that follows.
-/

namespace IdentSearch.Spread

structure Share where
  hump : Nat
  size : Nat
deriving DecidableEq, Repr

-- The shares spread a pattern over humps with the given texts: cut into pieces of their sizes, the pattern has the
-- first characters of a hump in each piece.
structure Spells (texts : List Text) (pattern : Text) (shares : List Share) : Prop where
  nonempty : shares ≠ []
  increasing : shares.IsChain fun s u => s.hump < u.hump
  positive : ∀ s ∈ shares, 1 ≤ s.size
  total : (shares.map (·.size)).sum = pattern.length
  pieces : List.Forall₂ (fun s piece => ∃ text, texts[s.hump]? = some text ∧ piece = text.take s.size)
    shares ((shares.map (·.size)).splitLengths pattern)

def fromStart (shares : List Share) : Bool := shares.head?.any fun s => s.hump == 0

def contiguous (shares : List Share) : Bool :=
  decide (shares.IsChain fun s u => u.hump = s.hump + 1)

def toEnd (humpCount : Nat) (shares : List Share) : Bool :=
  shares.getLast?.any fun s => s.hump + 1 == humpCount

def kindOf (humpCount : Nat) (shares : List Share) : Kind :=
  Kind.ofShape (fromStart shares) (contiguous shares) (toEnd humpCount shares)

variable {texts : List Text} {pattern : Text} {s u : Share} {ss us : List Share}

/-! ### A share and the rest -/

def Begins (texts : List Text) (pattern : Text) (s : Share) (rest : Text) : Prop :=
  ∃ text, texts[s.hump]? = some text ∧ 1 ≤ s.size ∧ s.size ≤ text.length ∧
    pattern = text.take s.size ++ rest

theorem Begins.length_eq {rest : Text} (h : Begins texts pattern s rest)
    : pattern.length = s.size + rest.length := by
  rcases h with ⟨text, _, _, hle, rfl⟩
  rw [List.length_append, List.length_take, Nat.min_eq_left hle]

theorem Begins.drop_eq {rest : Text} (h : Begins texts pattern s rest) : pattern.drop s.size = rest := by
  rcases h with ⟨text, _, _, hle, rfl⟩
  rw [List.drop_left' (by simpa using hle)]

theorem Spells.begins (h : Spells texts pattern (s :: ss))
    : Begins texts pattern s (pattern.drop s.size) := by
  have hpieces := h.pieces
  rw [List.map_cons, List.splitLengths_cons, List.forall₂_cons] at hpieces
  rcases hpieces.1 with ⟨text, htext, hpiece⟩
  have htotal := h.total
  rw [List.map_cons, List.sum_cons] at htotal
  refine ⟨text, htext, h.positive s List.mem_cons_self, ?_, ?_⟩
  . have := congrArg List.length hpiece
    simp only [List.length_take] at this
    omega
  . rw [← hpiece, List.take_append_drop]

theorem spells_singleton : Spells texts pattern [s] ↔ Begins texts pattern s [] := by
  constructor
  . intro h
    have htotal := h.total
    have hrest : pattern.drop s.size = [] := List.drop_eq_nil_iff.mpr (by simp at htotal; omega)
    exact hrest ▸ h.begins
  . intro h
    have hlen := h.length_eq
    rcases h with ⟨text, htext, hpos, hle, rfl⟩
    rw [List.append_nil] at hlen ⊢
    constructor
    . exact List.cons_ne_nil s []
    . exact List.IsChain.singleton s
    . simpa using hpos
    . simpa using hlen.symm
    . rw [List.map_cons, List.map_nil, List.splitLengths_cons, List.forall₂_cons, List.take_take,
        Nat.min_self]
      exact ⟨⟨text, htext, rfl⟩, List.Forall₂.nil⟩

theorem spells_cons_cons
    : Spells texts pattern (s :: u :: us)
        ↔
      ∃ rest, Begins texts pattern s rest ∧ s.hump < u.hump ∧ Spells texts rest (u :: us) := by
  constructor
  . intro h
    have hchain := List.isChain_cons_cons.mp h.increasing
    have hpieces := h.pieces
    have htotal := h.total
    rw [List.map_cons, List.splitLengths_cons, List.forall₂_cons] at hpieces
    rw [List.map_cons, List.sum_cons] at htotal
    refine ⟨pattern.drop s.size, h.begins, hchain.1, ?_⟩
    constructor
    . exact List.cons_ne_nil u us
    . exact hchain.2
    . intro v hv
      exact h.positive v (List.mem_cons_of_mem s hv)
    . rw [List.length_drop]
      omega
    . exact hpieces.2
  . rintro ⟨rest, hbegins, hlt, h⟩
    have hlen := hbegins.length_eq
    have hdrop := hbegins.drop_eq
    rcases hbegins with ⟨text, htext, hpos, hle, rfl⟩
    constructor
    . exact List.cons_ne_nil s _
    . exact List.isChain_cons_cons.mpr ⟨hlt, h.increasing⟩
    . intro v hv
      rcases List.mem_cons.mp hv with rfl | hv
      . exact hpos
      . exact h.positive v hv
    . rw [List.map_cons, List.sum_cons, h.total, hlen]
    . rw [List.map_cons, List.splitLengths_cons, List.forall₂_cons, hdrop]
      refine ⟨⟨text, htext, ?_⟩, h.pieces⟩
      rw [List.take_left' (by simpa using hle)]

/-! ### Shapes -/

/-- The shares keep a shape, on as many humps as there are. -/
def Shape.Allows (humpCount : Nat) (shape : Shape) : List Share → Prop
  | [] => True
  | [s] => shape = .toEnd → s.hump + 1 = humpCount
  | s :: u :: us => (shape ≠ .any → u.hump = s.hump + 1) ∧ shape.Allows humpCount (u :: us)

theorem allows_any (humpCount : Nat) (shares : List Share) : Shape.any.Allows humpCount shares := by
  induction shares with
  | nil => trivial
  | cons s ss ih =>
    cases ss with
    | nil => simp [Shape.Allows]
    | cons u us => exact ⟨fun h => absurd rfl h, ih⟩

theorem allows_contiguous_iff {humpCount : Nat} {shares : List Share}
    : Shape.contiguous.Allows humpCount shares ↔ contiguous shares = true := by
  simp only [contiguous, decide_eq_true_eq]
  induction shares with
  | nil => simp [Shape.Allows]
  | cons s ss ih =>
    cases ss with
    | nil => simp [Shape.Allows]
    | cons u us => simp [Shape.Allows, ih]

theorem allows_toEnd_iff {humpCount : Nat}
    : Shape.toEnd.Allows humpCount (s :: ss)
        ↔
      contiguous (s :: ss) = true ∧ toEnd humpCount (s :: ss) = true := by
  simp only [contiguous, decide_eq_true_eq]
  induction ss generalizing s with
  | nil => simp [Shape.Allows, toEnd]
  | cons u us ih =>
    simp only [Shape.Allows, ih, List.isChain_cons_cons, toEnd, List.getLast?_cons_cons, and_assoc,
      ne_eq, reduceCtorEq, not_false_eq_true, forall_const]

theorem rank_ofShape_le {fromStart contiguous contiguous' toEnd toEnd' : Bool}
    (hcontiguous : contiguous = true → contiguous' = true)
    (htoEnd : contiguous = true → toEnd = true → toEnd' = true)
    : (Kind.ofShape fromStart contiguous toEnd).rank ≤ (Kind.ofShape fromStart contiguous' toEnd').rank := by
  revert hcontiguous htoEnd
  revert fromStart contiguous contiguous' toEnd toEnd'
  decide

end IdentSearch.Spread
