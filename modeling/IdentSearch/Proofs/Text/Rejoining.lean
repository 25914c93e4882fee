import IdentSearch.Proofs.Text.Parts
import IdentSearch.Proofs.Text.Splitting

/-!
Nothing is lost when a text is cut at its separators. The pieces and the characters that the text has behind them
make up the text again, and a dotted name is the last piece of its text.
-/

namespace IdentSearch.Text

variable {isSeparator : Char → Bool} {start : Nat} {t : Text} {ps : List Piece} {p : Piece}

/-- The pieces of a text put together, behind each but the last the character that the text has there. -/
def rejoin? (t : Text) : List Piece → Option Text
  | [] => none
  | [p] => some p.text
  | p :: q :: ps => do
    let c ← t[p.start + p.text.length]?
    let rest ← rejoin? t (q :: ps)
    return p.text ++ c :: rest

theorem rejoin?_cons {u rest : Text} {c : Char} (hc : u[p.start + p.text.length]? = some c)
    (hrest : rejoin? u ps = some rest) : rejoin? u (p :: ps) = some (p.text ++ c :: rest) := by
  cases ps with
  | nil => cases hrest
  | cons q ps =>
    rw [rejoin?, hc, hrest]
    rfl

namespace Cut

theorem countP_inner (inner : ∀ c ∈ t, isSeparator c = false) : t.countP isSeparator = 0 := by
  rw [List.countP_eq_zero]
  intro c hc
  rw [inner c hc]
  exact Bool.false_ne_true

theorem length_eq (h : Cut isSeparator start t ps) : ps.length = t.countP isSeparator + 1 := by
  induction h with
  | last inner => rw [countP_inner inner, List.length_singleton]
  | cons inner separator _ ih =>
    rw [List.length_cons, ih, List.countP_append, countP_inner inner, List.countP_cons_of_pos separator,
      Nat.zero_add]

theorem not_separator (h : Cut isSeparator start t ps) (hp : p ∈ ps) : ∀ c ∈ p.text, isSeparator c = false := by
  induction h with
  | last inner =>
    cases List.mem_singleton.mp hp
    exact inner
  | cons inner _ _ ih =>
    rcases List.mem_cons.mp hp with rfl | hp
    . exact inner
    . exact ih hp

theorem rejoin?_eq {u : Text} (h : Cut isSeparator start t ps) (hu : u.drop start = t)
    : rejoin? u ps = some t := by
  induction h with
  | last => rfl
  | @cons start t rest c ps _ _ _ ih =>
    have hbehind : u.drop (start + t.length) = c :: rest := by
      rw [← List.drop_drop, hu, List.drop_left' rfl]
    rcases getElem?_of_drop hbehind with ⟨hc, hrest⟩
    exact rejoin?_cons hc (ih hrest)

theorem getLast?_cases (h : Cut isSeparator start t ps)
    : ∃ p, ps.getLast? = some p ∧ (∀ c ∈ p.text, isSeparator c = false) ∧
        (ps.length = 1 ∧ t = p.text ∨
          ps.length ≠ 1 ∧ ∃ before c, isSeparator c = true ∧ t = before ++ c :: p.text) := by
  induction h with
  | @last start t inner => exact ⟨⟨start, t⟩, rfl, inner, .inl ⟨rfl, rfl⟩⟩
  | @cons start t rest c ps _ separator _ ih =>
    rcases ih with ⟨p, hlast, hinner, hp⟩
    have hne : ps ≠ [] := by
      rintro rfl
      cases hlast
    have hlonger : (⟨start, t⟩ :: ps : List Piece).length ≠ 1 := by
      rw [List.length_cons, ne_eq, Nat.add_eq_right, List.length_eq_zero_iff]
      exact hne
    refine ⟨p, ?_, hinner, .inr ⟨hlonger, ?_⟩⟩
    . rw [List.getLast?_cons, hlast]
      rfl
    . rcases hp with ⟨_, rfl⟩ | ⟨_, before, d, hd, rfl⟩
      . exact ⟨t, c, separator, rfl⟩
      . refine ⟨t ++ c :: before, d, hd, ?_⟩
        rw [List.append_assoc, List.cons_append]

end Cut

/-! ### Cutting and putting together -/

structure Rejoins (isSeparator : Char → Bool) (t : Text) : Prop where
  length_eq : (t.split isSeparator).length = t.countP isSeparator + 1
  not_separator : ∀ p ∈ t.split isSeparator, ∀ c ∈ p.text, isSeparator c = false
  reads : ∀ p ∈ t.split isSeparator, t.slice p.start p.text.length = p.text
  rejoined : t.rejoin? (t.split isSeparator) = some t
  nonempty_eq : t.splitNonempty isSeparator = (t.split isSeparator).filter fun p => !p.text.isEmpty
  behind : ∀ (dropEmpty : Bool) (q : Text) (c : Char), isSeparator c = true →
    (q ++ c :: t).pieces dropEmpty isSeparator
      =
    q.pieces dropEmpty isSeparator ++ (t.pieces dropEmpty isSeparator).map (·.shift (q.length + 1))

structure IsNamedByLastPiece (t : Text) : Prop where
  name_eq : (t.split (· == '.')).getLast?.map (·.text) = some t.nameAndContainer.1
  container_eq_none_iff : t.nameAndContainer.2 = none ↔ (t.split (· == '.')).length = 1
  rejoined : ∀ container ∈ t.nameAndContainer.2, container ++ '.' :: t.nameAndContainer.1 = t

theorem rejoins (isSeparator : Char → Bool) (t : Text) : t.Rejoins isSeparator where
  length_eq := (split_cut isSeparator t).length_eq
  not_separator _ hp := (split_cut isSeparator t).not_separator hp
  reads _ hp := (split_cut isSeparator t).reads rfl hp
  rejoined := (split_cut isSeparator t).rejoin?_eq rfl
  nonempty_eq := splitNonempty_eq_filter isSeparator t
  behind _ q _ hc := pieces_append_cons hc q t

/-! ### Dotted names -/

theorem nameAndContainer_of_no_dot (h : ∀ c ∈ t, (c == '.') = false) : t.nameAndContainer = (t, none) := by
  unfold nameAndContainer
  dsimp only
  rw [if_neg]
  rw [List.contains_iff_mem]
  intro hdot
  exact absurd (h '.' hdot) (by decide)

theorem nameAndContainer_of_dot (before : Text) {name : Text} (h : ∀ c ∈ name, (c == '.') = false)
    : (before ++ '.' :: name).nameAndContainer = (name, some before) := by
  have hname : ((before ++ '.' :: name).reverse.takeWhile (· != '.')).reverse = name := by
    rw [List.reverse_append, List.reverse_cons, List.append_assoc, List.takeWhile_append_of_pos]
    . simp
    . intro c hc
      rw [List.mem_reverse] at hc
      rw [bne, h c hc]
      rfl
  have hlength : (before ++ '.' :: name).length - name.length - 1 = before.length := by
    rw [List.length_append, List.length_cons]
    omega
  unfold nameAndContainer
  dsimp only
  rw [hname, hlength, List.take_left' rfl, if_pos]
  rw [List.contains_iff_mem]
  simp

theorem isNamedByLastPiece (t : Text) : t.IsNamedByLastPiece := by
  rcases (split_cut (· == '.') t).getLast?_cases with ⟨p, hlast, hinner, ⟨hone, heq⟩ | ⟨hmore, before, c, hc, heq⟩⟩
  . rw [← heq] at hinner
    have hname := nameAndContainer_of_no_dot hinner
    constructor
    . rw [hlast, hname, heq]
      rfl
    . rw [hname, hone]
      simp
    . rw [hname]
      rintro container ⟨⟩
  . rw [beq_iff_eq] at hc
    rw [hc] at heq
    have hname := nameAndContainer_of_dot before hinner
    rw [← heq] at hname
    constructor
    . rw [hlast, hname]
      rfl
    . rw [hname]
      simp [hmore]
    . rw [hname]
      rintro container ⟨⟩
      exact heq.symm

theorem split_rejoins (isSeparator : Char → Bool) (t : Text) : t.Rejoins isSeparator ∧ t.IsNamedByLastPiece :=
  ⟨t.rejoins isSeparator, t.isNamedByLastPiece⟩

end IdentSearch.Text
