import IdentSearch.Terminal.Markup
import Mathlib.Tactic.Common

/-!
What is relied on when texts with marks are written: a text is written if its only marks begin and end a style,
and it is not written if it ends a style that has not begun. The markup of the program keeps to that.
-/

namespace IdentSearch.Terminal

structure IsStyleName (name : Text) : Prop where
  nonempty : name ≠ []
  letters : ∀ c ∈ name, Text.between 'a' 'z' c = true

-- Nothing in a text is part of a mark or takes the meaning of a mark away.
structure IsPlain (t : Text) : Prop where
  brackets : '[' ∉ t
  backslashes : '\\' ∉ t

def styled (style t : Text) : Text := '[' :: (style ++ ']' :: (t ++ '[' :: '/' :: (style ++ [']'])))

structure Markup.IsLawful (markup : Markup) : Prop where
  balanced : ∀ {style about t}, IsStyleName style → IsPlain about → '[' ∉ t
    → ∃ u, markup (styled style about ++ t) = .ok u
  unbalanced : ∀ {style about before name behind}, IsStyleName style → IsPlain about → IsPlain before
    → IsStyleName name
    → ∃ e, markup (styled style about ++ (before ++ '[' :: '/' :: (name ++ ']' :: behind))) = .error e

variable {t name : Text}

/-! ### Marks -/

theorem body?_eq_none (h : '[' ∉ t) : Mark.body? t = none := by
  unfold Mark.body?
  split
  . exact absurd List.mem_cons_self h
  . rfl

theorem IsStyleName.not_mem (h : IsStyleName name) {c : Char} (hc : Text.between 'a' 'z' c = false) : c ∉ name := by
  intro hmem
  rw [h.letters c hmem] at hc
  cases hc

theorem takeWhile_append_cons {p : Char → Bool} {c : Char} (h : ∀ d ∈ name, p d = true) (hc : p c = false)
    (rest : Text) : (name ++ c :: rest).takeWhile p = name := by
  rw [List.takeWhile_append_of_pos h, List.takeWhile_cons_of_neg (by simp [hc]), List.append_nil]

theorem IsStyleName.inside (h : IsStyleName name) : ∀ d ∈ name, (d != '[' && d != ']') = true := by
  intro d hd
  have hopening : d ≠ '[' := fun heq => h.not_mem (by decide) (heq ▸ hd)
  have hclosing : d ≠ ']' := fun heq => h.not_mem (by decide) (heq ▸ hd)
  simp [hopening, hclosing]

theorem body?_bracketed {body : Text} (hinside : ∀ d ∈ body, (d != '[' && d != ']') = true)
    (hstart : body.head?.any Mark.canStart = true) (behind : Text)
    : Mark.body? ('[' :: (body ++ ']' :: behind)) = some body := by
  have hbody := takeWhile_append_cons (c := ']') hinside (by decide) behind
  simp only [Mark.body?]
  rw [hbody, hstart, List.drop_left]
  rfl

theorem body?_opening (h : IsStyleName name) (behind : Text)
    : Mark.body? ('[' :: (name ++ ']' :: behind)) = some name := by
  apply body?_bracketed h.inside
  cases name with
  | nil => exact absurd rfl h.nonempty
  | cons c cs => simp [Mark.canStart, h.letters c List.mem_cons_self]

theorem body?_closing (h : IsStyleName name) (behind : Text)
    : Mark.body? ('[' :: (('/' :: name) ++ ']' :: behind)) = some ('/' :: name) := by
  apply body?_bracketed _ rfl
  rw [List.forall_mem_cons]
  exact ⟨by decide, h.inside⟩

theorem ofBody_name (h : '=' ∉ t) (position : Nat) : (Mark.ofBody t position).name = t := by
  have hinside : ∀ c ∈ t, (c != '=') = true := by
    intro c hc
    have hne : c ≠ '=' := fun heq => h (heq ▸ hc)
    simp [hne]
  rw [← List.append_nil t, Mark.ofBody, List.takeWhile_append_of_pos hinside]
  rfl

theorem not_isBlankChar {c : Char} (h : Text.between 'a' 'z' c = true) : Text.isBlankChar c = false := by
  rw [Text.between, Bool.and_eq_true, decide_eq_true_eq, decide_eq_true_eq] at h
  have hlow : 97 ≤ c.toNat := h.1
  have hhigh : c.toNat ≤ 122 := h.2
  simp [Text.isBlankChar, Text.blankRanges, Text.CodeRange.anyContains, Text.CodeRange.contains]
  omega

theorem IsStyleName.trim_eq (h : IsStyleName name) : name.trim = name := by
  have hkeep : ∀ t : Text, (∀ c ∈ t, Text.between 'a' 'z' c = true) → t.dropWhile Text.isBlankChar = t := by
    intro t ht
    cases t with
    | nil => rfl
    | cons c cs => rw [List.dropWhile_cons, not_isBlankChar (ht c List.mem_cons_self), if_neg Bool.false_ne_true]
  have hreverse : ∀ c ∈ name.reverse, Text.between 'a' 'z' c = true := by
    intro c hc
    exact h.letters c (List.mem_reverse.mp hc)
  rw [Text.trim, Text.trimLeft, hkeep name h.letters, Text.trimRight, hkeep _ hreverse, List.reverse_reverse]

/-! ### Parts -/

variable {style about before behind rest : Text}

theorem IsPlain.tail {c : Char} {cs : Text} (h : IsPlain (c :: cs)) : IsPlain cs :=
  ⟨fun hmem => h.brackets (List.mem_cons_of_mem c hmem), fun hmem => h.backslashes (List.mem_cons_of_mem c hmem)⟩

theorem markedParts_plain (h : IsPlain before) (position : Nat) (taken : Text) (fuel : Nat) (rest : Text)
    : markedParts position taken (fuel + before.length) (before ++ rest)
        =
      markedParts (position + before.length) (before.reverse ++ taken) fuel rest := by
  induction before generalizing position taken with
  | nil => rfl
  | cons c cs ih =>
    have hbracket : c ≠ '[' := fun heq => h.brackets (heq ▸ List.mem_cons_self)
    have hbackslash : c ≠ '\\' := fun heq => h.backslashes (heq ▸ List.mem_cons_self)
    have hescapes : (c :: (cs ++ rest)).takeWhile (· = '\\') = [] := by
      rw [List.takeWhile_cons_of_neg (by simp [hbackslash])]
    have hbody : Mark.body? (c :: (cs ++ rest)) = none := by
      unfold Mark.body?
      split
      . next heq => exact absurd (List.cons.inj heq).1 hbracket
      . rfl
    rw [List.length_cons, ← Nat.add_assoc, List.cons_append, markedParts]
    dsimp only
    rw [hescapes, List.length_nil, List.drop_zero, hbody]
    dsimp only
    rw [List.isEmpty_nil, if_pos rfl, ih h.tail, List.reverse_cons, List.append_assoc, List.singleton_append,
      Nat.add_assoc, Nat.add_comm 1]

theorem markedParts_mark {body : Text} (hbody : Mark.body? ('[' :: (body ++ ']' :: rest)) = some body)
    (position : Nat) (taken : Text) (fuel : Nat)
    : markedParts position taken (fuel + 1) ('[' :: (body ++ ']' :: rest))
        =
      .plain (unescapeBrackets taken.reverse) :: .plain [] :: .mark (Mark.ofBody body position) ::
        markedParts (position + body.length + 2) [] fuel rest := by
  have hescapes : ('[' :: (body ++ ']' :: rest)).takeWhile (· = '\\') = [] := by
    rw [List.takeWhile_cons_of_neg (by decide)]
  have hrest : ('[' :: (body ++ ']' :: rest)).drop (body.length + 2) = rest := by
    rw [List.drop_succ_cons, List.drop_append, List.drop_eq_nil_of_le (by omega)]
    simp
  rw [markedParts]
  dsimp only
  rw [hescapes, List.length_nil, List.drop_zero, hbody]
  dsimp only
  rw [hrest]
  rfl

theorem markedParts_last (h : '[' ∉ t) (position : Nat) (taken : Text) {fuel : Nat} (hfuel : t.length < fuel)
    : markedParts position taken fuel t = [.plain (unescapeBrackets (taken.reverse ++ t))] := by
  -- All backslashes in a row are taken at once, so the induction is on the fuel and not on the text.
  induction fuel generalizing t position taken with
  | zero => cases hfuel
  | succ fuel ih =>
    cases t with
    | nil => rw [markedParts, List.append_nil]
    | cons c cs =>
      have hsplit : (c :: cs).takeWhile (· = '\\') ++ (c :: cs).drop ((c :: cs).takeWhile (· = '\\')).length
          = c :: cs :=
        List.prefix_iff_eq_append.mp (List.takeWhile_prefix _)
      unfold markedParts
      generalize (c :: cs).takeWhile (· = '\\') = escapes at hsplit
      have hbehind : '[' ∉ (c :: cs).drop escapes.length := by
        intro hmem
        exact h (List.mem_of_mem_drop hmem)
      dsimp only
      rw [body?_eq_none hbehind]
      dsimp only
      split
      . next hempty =>
        rw [ih, List.reverse_cons, List.append_assoc, List.cons_append, List.nil_append]
        . intro hmem
          exact h (List.mem_cons_of_mem c hmem)
        . rw [List.length_cons] at hfuel
          omega
      . next hsome =>
        rw [ih hbehind, List.reverse_append, List.reverse_reverse, List.append_assoc, hsplit]
        have hpos := List.length_pos_iff.mpr (mt List.isEmpty_iff.mpr hsome)
        rw [List.length_cons] at hfuel
        rw [List.length_drop, List.length_cons]
        omega

/-! ### Writing -/

theorem writeParts_plain (styles : List Text) (t : Text) (parts : List MarkedPart)
    : writeParts styles (.plain t :: parts) = (writeParts styles parts).map (t ++ ·) :=
  rfl

theorem writeParts_opening {m : Mark} (h : IsStyleName m.name) (styles : List Text) (parts : List MarkedPart)
    : writeParts styles (.mark m :: parts) = writeParts (styleOf m.name :: styles) parts := by
  have hended : m.ended? = none := by
    unfold Mark.ended?
    split
    . next heq => exact absurd (heq ▸ List.mem_cons_self) (h.not_mem (c := '/') (by decide))
    . rfl
  conv_lhs => rw [writeParts.eq_def]
  dsimp only
  rw [hended]

theorem writeParts_closing {m : Mark} (hm : m.name = '/' :: name) (h : IsStyleName name) (styles : List Text)
    (parts : List MarkedPart)
    : writeParts styles (.mark m :: parts)
        =
      if styles.contains (styleOf name) then writeParts (styles.erase (styleOf name)) parts
      else .error (unmatchedMessage m) := by
  have hended : m.ended? = some name := by
    rw [Mark.ended?, hm]
    exact congrArg some h.trim_eq
  cases name with
  | nil => exact absurd rfl h.nonempty
  | cons c cs =>
    conv_lhs => rw [writeParts.eq_def]
    dsimp only
    rw [hended]

theorem IsStyleName.slash_ofBody (h : IsStyleName name) (position : Nat)
    : (Mark.ofBody ('/' :: name) position).name = '/' :: name := by
  apply ofBody_name
  rw [List.mem_cons, not_or]
  exact ⟨by decide, h.not_mem (by decide)⟩

theorem withoutMarks_styled (hstyle : IsStyleName style) (habout : IsPlain about) (rest : Text)
    : ∃ u position fuel, rest.length < fuel ∧
        withoutMarks (styled style about ++ rest)
          =
        (writeParts [] (markedParts position [] fuel rest)).map (u ++ ·) := by
  have hlength : (styled style about ++ rest).length + 1
      = ((rest.length + 2 * style.length + 4) + 1 + about.length) + 1 := by
    simp only [styled, List.cons_append, List.append_assoc, List.nil_append, List.length_cons, List.length_append]
    omega
  have hshape : styled style about ++ rest
      = '[' :: (style ++ ']' :: (about ++ '[' :: (('/' :: style) ++ ']' :: rest))) := by
    simp [styled]
  have hfirst := markedParts_mark (body?_opening hstyle (about ++ '[' :: (('/' :: style) ++ ']' :: rest))) 0 []
    (rest.length + 2 * style.length + 4 + 1 + about.length)
  have hlast := markedParts_mark (body?_closing hstyle rest) (0 + style.length + 2 + about.length)
    (about.reverse ++ []) (rest.length + 2 * style.length + 4)
  have hopening : (Mark.ofBody style 0).name = style := ofBody_name (hstyle.not_mem (by decide)) 0
  have hwritten : withoutMarks (styled style about ++ rest)
      = (writeParts [] (markedParts (0 + style.length + 2 + about.length + ('/' :: style).length + 2) []
          (rest.length + 2 * style.length + 4) rest)).map (unescapeBrackets (about.reverse ++ []).reverse ++ ·) := by
    rw [withoutMarks, hlength, hshape, hfirst, markedParts_plain habout, hlast]
    rw [writeParts_plain, writeParts_plain, writeParts_opening (hopening.symm ▸ hstyle), hopening, writeParts_plain,
      writeParts_plain, writeParts_closing (hstyle.slash_ofBody _) hstyle]
    rw [if_pos (by simp), List.erase_cons_head]
    cases writeParts [] (markedParts _ [] _ rest) with
    | error e => rfl
    | ok u => rfl
  refine ⟨_, _, _, ?_, hwritten⟩
  omega

theorem withoutMarks_isLawful : Markup.IsLawful withoutMarks := by
  constructor
  . intro style about t hstyle habout ht
    rcases withoutMarks_styled hstyle habout t with ⟨u, position, fuel, hfuel, hwritten⟩
    rw [hwritten, markedParts_last ht position [] hfuel]
    exact ⟨_, rfl⟩
  . intro style about before name behind hstyle habout hbefore hname
    rcases withoutMarks_styled hstyle habout (before ++ '[' :: '/' :: (name ++ ']' :: behind))
      with ⟨u, position, fuel, hfuel, hwritten⟩
    obtain ⟨spare, rfl⟩ : ∃ spare, fuel = spare + 1 + before.length := by
      refine ⟨fuel - 1 - before.length, ?_⟩
      rw [List.length_append, List.length_cons] at hfuel
      omega
    have hmark := markedParts_mark (body?_closing hname behind) (position + before.length) (before.reverse ++ []) spare
    have hclosing : '[' :: '/' :: (name ++ ']' :: behind) = '[' :: (('/' :: name) ++ ']' :: behind) := rfl
    rw [hwritten, markedParts_plain hbefore, hclosing, hmark, writeParts_plain, writeParts_plain,
      writeParts_closing (hname.slash_ofBody _) hname]
    exact ⟨_, rfl⟩

end IdentSearch.Terminal
