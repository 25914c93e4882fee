import IdentSearch.Text.Basic

/-!
Sets of characters, listed in the order of their code points. Two sets are equal exactly when they hold
the same characters.
-/

namespace IdentSearch

structure CharSet where
  toList : List Char
  -- No character stands before a smaller one or before itself.
  sorted : toList.Pairwise fun c d => c.toNat < d.toNat
deriving DecidableEq

namespace CharSet

def empty : CharSet := ⟨[], .nil⟩

def contains (s : CharSet) (c : Char) : Bool := s.toList.contains c

def isEmpty (s : CharSet) : Bool := s.toList.isEmpty

def insertInto (c : Char) : List Char → List Char
  | [] => [c]
  | d :: ds =>
    if c.toNat < d.toNat then c :: d :: ds
    else if d.toNat < c.toNat then d :: insertInto c ds
    else d :: ds

theorem mem_insertInto {c x : Char} {l : List Char}
    : x ∈ insertInto c l ↔ x = c ∨ x ∈ l := by
  induction l with
  | nil => simp [insertInto]
  | cons d ds ih =>
    unfold insertInto
    split
    . simp
    . split
      . simp only [List.mem_cons, ih]
        exact or_left_comm
      . have : c = d := Char.toNat_inj.mp (by omega)
        simp [this]

theorem sorted_insertInto {c : Char} {l : List Char}
    (h : l.Pairwise fun c d => c.toNat < d.toNat)
    : (insertInto c l).Pairwise fun c d => c.toNat < d.toNat := by
  induction l with
  | nil => simp [insertInto]
  | cons d ds ih =>
    rw [List.pairwise_cons] at h
    unfold insertInto
    split
    . rename_i hc
      refine List.pairwise_cons.mpr ⟨fun x hx => ?_, List.pairwise_cons.mpr h⟩
      rcases List.mem_cons.mp hx with rfl | hx
      . exact hc
      . exact Nat.lt_trans hc (h.1 x hx)
    . split
      . rename_i hd
        refine List.pairwise_cons.mpr ⟨fun x hx => ?_, ih h.2⟩
        rcases mem_insertInto.mp hx with rfl | hx
        . exact hd
        . exact h.1 x hx
      . exact List.pairwise_cons.mpr h

def insert (c : Char) (s : CharSet) : CharSet := ⟨insertInto c s.toList, sorted_insertInto s.sorted⟩

def ofList : List Char → CharSet
  | [] => empty
  | c :: cs => insert c (ofList cs)

instance : Membership Char CharSet := ⟨fun s c => c ∈ s.toList⟩

theorem mem_ofList {c : Char} {cs : List Char} : c ∈ ofList cs ↔ c ∈ cs := by
  induction cs with
  | nil => exact Iff.rfl
  | cons d cs ih =>
    rw [List.mem_cons, ← ih]
    exact mem_insertInto

theorem contains_ofList (cs : List Char) (c : Char) : (ofList cs).contains c = cs.contains c := by
  rw [Bool.eq_iff_iff, contains, List.contains_iff_mem, List.contains_iff_mem]
  exact mem_ofList

end CharSet
end IdentSearch
