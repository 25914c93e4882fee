import IdentSearch.Proofs.Json.Reading
import Mathlib.Data.List.Forall2

/-!
What is written as JSON can be read again. This goes for all values without fractions whose keys are texts.
-/

namespace IdentSearch

inductive Value.IsPlain : Value → Prop
  | null : IsPlain .null
  | bool (b : Bool) : IsPlain (.bool b)
  | int (n : Int) : IsPlain (.int n)
  | text (t : Text) : IsPlain (.text t)
  | list {vs : List Value} (items : ∀ v ∈ vs, IsPlain v) : IsPlain (.list vs)
  | map {es : List (Value × Value)} (keys : ∀ e ∈ es, ∃ t, e.1 = .text t) (values : ∀ e ∈ es, IsPlain e.2)
    : IsPlain (.map es)

namespace Json

def EndsNumber (t : Text) : Prop := ∀ c cs, t = c :: cs → c.isDigit = false

def canBegin (c : Char) : Bool := !isBlank c && c != ']' && c != '\x7d'

structure IsRead {α : Type} (readOne : Text → Option (α × Text)) (x : α) (t : Text) : Prop where
  begins : ∃ c cs, t = c :: cs ∧ canBegin c = true
  reads : ∀ rest, EndsNumber rest → readOne (t ++ rest) = some (x, rest)

theorem endsNumber_cons {c : Char} (h : c.isDigit = false) (cs : Text) : EndsNumber (c :: cs) := by
  rintro d ds ⟨⟩
  exact h

/-! ### White space -/

theorem skip_cons {c : Char} (h : isBlank c = false) (cs : Text) : skip (c :: cs) = c :: cs := by
  rw [skip, List.dropWhile_cons_of_neg]
  rw [h]
  exact Bool.false_ne_true

theorem skip_newLine (level : Nat) (t : Text) : skip (newLine level ++ t) = skip t := by
  rw [skip, List.dropWhile_append_of_pos]
  . rfl
  . intro c hc
    rcases List.mem_cons.mp hc with rfl | hc
    . rfl
    . rw [List.eq_of_mem_replicate hc]
      rfl

theorem canBegin_of_isDigit {c : Char} (h : c.isDigit = true) : canBegin c = true := by
  have hblank : isBlank c = false := by
    rw [Bool.eq_false_iff]
    intro hblank
    simp only [isBlank, Bool.or_eq_true, decide_eq_true_eq] at hblank
    rcases hblank with ((rfl | rfl) | rfl) | rfl
    all_goals exact absurd h (by decide)
  rw [canBegin, hblank]
  simp only [Bool.not_false, Bool.true_and, Bool.and_eq_true, bne_iff_ne, ne_eq]
  constructor
  . rintro rfl
    exact absurd h (by decide)
  . rintro rfl
    exact absurd h (by decide)

theorem isBlank_of_canBegin {c : Char} (h : canBegin c = true) : isBlank c = false := by
  rw [canBegin, Bool.and_eq_true, Bool.and_eq_true, Bool.not_eq_true'] at h
  exact h.1.1

theorem IsRead.skip_append {α : Type} {readOne : Text → Option (α × Text)} {x : α} {t : Text}
    (h : IsRead readOne x t) (rest : Text) : skip (t ++ rest) = t ++ rest := by
  rcases h.begins with ⟨c, cs, rfl, hc⟩
  exact skip_cons (isBlank_of_canBegin hc) _

/-! ### Brackets -/

structure IsClosing (c : Char) : Prop where
  isNotBlank : isBlank c = false
  isNotComma : c ≠ ','
  cannotBegin : canBegin c = false

theorem isClosing_square : IsClosing ']' where
  isNotBlank := rfl
  isNotComma := by decide
  cannotBegin := rfl

theorem isClosing_curly : IsClosing '\x7d' where
  isNotBlank := rfl
  isNotComma := by decide
  cannotBegin := rfl

theorem length_le_bracketed {t : Text} {ts : List Text} (h : t ∈ ts) (level : Nat) (opening closing : Char)
    : t.length < (bracketed level opening closing ts).length := by
  have hnonempty : ts.isEmpty = false := by
    rw [List.isEmpty_eq_false_iff]
    exact List.ne_nil_of_mem h
  have hmem : ∀ sep : Text, t ∈ ts.intersperse sep := by
    intro sep
    induction ts with
    | nil => cases h
    | cons u us ih =>
      cases us with
      | nil =>
        rw [List.intersperse_singleton]
        exact h
      | cons v vs =>
        rw [List.intersperse_cons_cons]
        rcases List.mem_cons.mp h with rfl | h
        . exact List.mem_cons_self
        . exact List.mem_cons_of_mem _ (List.mem_cons_of_mem _ (ih h rfl))
  have hle := (List.sublist_flatten_of_mem (hmem (',' :: newLine (level + 1)))).length_le
  rw [bracketed, hnonempty, if_neg Bool.false_ne_true]
  simp only [List.length_cons, List.length_append]
  omega

section
variable {α : Type} {readOne : Text → Option (α × Text)} {xs : List α} {ts : List Text} {closing : Char}

theorem length_le_intersperse (h : List.Forall₂ (IsRead readOne) xs ts) (sep : Text)
    : xs.length ≤ (ts.intersperse sep).flatten.length := by
  induction h with
  | nil => exact Nat.zero_le _
  | @cons x t xs ts hx hxs ih =>
    rcases hx.begins with ⟨c, cs, rfl, -⟩
    cases hxs with
    | nil => simp
    | cons hy hys =>
      rw [List.intersperse_cons_cons, List.flatten_cons, List.flatten_cons, List.length_append, List.length_append,
        List.length_cons, @List.length_cons _ c cs]
      omega

theorem begins_intersperse {t : Text} (h : ∃ c cs, t = c :: cs ∧ canBegin c = true) (ts : List Text) (sep : Text)
    : ∃ c cs, ((t :: ts).intersperse sep).flatten = c :: cs ∧ canBegin c = true := by
  rcases h with ⟨c, cs, rfl, hc⟩
  cases ts with
  | nil => exact ⟨c, _, rfl, hc⟩
  | cons u us => exact ⟨c, _, rfl, hc⟩

theorem readSeparated?_intersperse (hclosing : IsClosing closing) (h : List.Forall₂ (IsRead readOne) xs ts)
    (hsome : xs ≠ []) {fuel : Nat} (hfuel : xs.length ≤ fuel) (level level' : Nat) (rest : Text)
    : readSeparated? closing readOne fuel
          (newLine level ++ ((ts.intersperse (',' :: newLine level)).flatten ++ (newLine level' ++ closing :: rest)))
        =
      some (xs, rest) := by
  induction h generalizing fuel with
  | nil => exact absurd rfl hsome
  | @cons x t xs ts hx hxs ih =>
    cases fuel with
    | zero => cases hfuel
    | succ fuel =>
      cases hxs with
      | nil =>
        have hends : EndsNumber (newLine level' ++ closing :: rest) := endsNumber_cons rfl _
        rw [List.intersperse_singleton, List.flatten_singleton, readSeparated?, skip_newLine, hx.skip_append,
          hx.reads _ hends]
        simp only [Option.bind_eq_bind, Option.bind_some, skip_newLine, skip_cons hclosing.isNotBlank, if_pos]
        rfl
      | @cons y u ys us hy hys =>
        have hrest := ih (List.cons_ne_nil y ys) (Nat.le_of_succ_le_succ hfuel)
        rw [List.intersperse_cons_cons, List.flatten_cons, List.flatten_cons, List.append_assoc, List.append_assoc,
          List.cons_append, readSeparated?, skip_newLine, hx.skip_append, hx.reads _ (endsNumber_cons rfl _)]
        simp only [Option.bind_eq_bind, Option.bind_some]
        rw [skip_cons rfl]
        dsimp only
        rw [if_neg (Ne.symm hclosing.isNotComma), if_pos rfl, hrest]
        rfl

theorem readBracketed?_bracketed (hclosing : IsClosing closing) (h : List.Forall₂ (IsRead readOne) xs ts)
    (level : Nat) (opening : Char)
    : ∃ body, bracketed level opening closing ts = opening :: body
      ∧ ∀ rest, readBracketed? closing readOne (body ++ rest) = some (xs, rest) := by
  cases h with
  | nil =>
    refine ⟨[closing], rfl, ?_⟩
    intro rest
    rw [List.cons_append, List.nil_append, readBracketed?, skip_cons hclosing.isNotBlank]
    dsimp only
    rw [if_pos rfl]
  | @cons x t xs ts hx hxs =>
    refine ⟨_, rfl, ?_⟩
    intro rest
    have hxs := List.Forall₂.cons hx hxs
    have hle := length_le_intersperse hxs (',' :: newLine (level + 1))
    rcases begins_intersperse hx.begins ts (',' :: newLine (level + 1)) with ⟨c, cs, hcs, hc⟩
    have hother : c ≠ closing := by
      rintro rfl
      rw [hclosing.cannotBegin] at hc
      cases hc
    rw [List.append_assoc, List.append_assoc, List.append_assoc, List.cons_append, List.nil_append, readBracketed?,
      skip_newLine, hcs, List.cons_append, skip_cons (isBlank_of_canBegin hc)]
    dsimp only
    rw [if_neg hother, ← List.cons_append, ← hcs]
    refine readSeparated?_intersperse hclosing hxs (List.cons_ne_nil x xs) ?_ (level + 1) level rest
    rw [List.length_append, List.length_append]
    omega

end

/-! ### Values -/

theorem readDigits?_toDigits (n : Nat) {rest : Text} (h : EndsNumber rest)
    : readDigits? (Nat.toDigits 10 n ++ rest) = some (n, rest) := by
  have hdigits : ∀ c ∈ Nat.toDigits 10 n, c.isDigit = true := by
    intro c hc
    exact Nat.isDigit_of_mem_toDigits (b := 10) (by omega) (by omega) hc
  have hends : rest.takeWhile Char.isDigit = [] ∧ rest.dropWhile Char.isDigit = rest := by
    cases rest with
    | nil => exact ⟨rfl, rfl⟩
    | cons c cs =>
      have hc := h c cs rfl
      simp [hc]
  have hsome : (Nat.toDigits 10 n).isEmpty = false := by
    rw [List.isEmpty_eq_false_iff]
    exact Nat.toDigits_ne_nil
  rw [readDigits?, List.takeWhile_append_of_pos hdigits, List.dropWhile_append_of_pos hdigits, hends.1, hends.2,
    List.append_nil, hsome, if_neg Bool.false_ne_true, Nat.ofDigitChars_toDigits (by omega) (by omega)]

theorem toDigits_begins (n : Nat) : ∃ c cs, Nat.toDigits 10 n = c :: cs ∧ c.isDigit = true := by
  cases hdigits : Nat.toDigits 10 n with
  | nil => exact absurd hdigits Nat.toDigits_ne_nil
  | cons c cs =>
    have hmem : c ∈ Nat.toDigits 10 n := hdigits ▸ List.mem_cons_self
    exact ⟨c, cs, rfl, Nat.isDigit_of_mem_toDigits (by omega) (by omega) hmem⟩

theorem isRead_int (fuel : Nat) (n : Int) : IsRead (readValue? (fuel + 1)) (.int n) (Value.intText n) := by
  rcases toDigits_begins n.natAbs with ⟨c, cs, hdigits, hc⟩
  unfold Value.intText
  split
  . next hneg =>
    have hvalue : -(n.natAbs : Int) = n := by omega
    refine ⟨⟨'-', _, rfl, rfl⟩, ?_⟩
    intro rest hrest
    rw [List.cons_append, readValue?, if_neg (by decide), if_pos rfl, readDigits?_toDigits _ hrest, Option.map_some]
    dsimp only
    rw [hvalue]
  . next hpos =>
    have hvalue : (n.natAbs : Int) = n := by omega
    refine ⟨⟨c, cs, hdigits, canBegin_of_isDigit hc⟩, ?_⟩
    intro rest hrest
    rw [hdigits, List.cons_append, readValue?, if_pos hc, ← List.cons_append, ← hdigits, readDigits?_toDigits _ hrest,
      Option.map_some]
    dsimp only
    rw [hvalue]

theorem isRead_quoted (fuel : Nat) (t : Text) : IsRead (readValue? (fuel + 1)) (.text t) (quoted t) := by
  refine ⟨⟨'"', _, rfl, rfl⟩, ?_⟩
  intro rest _
  rw [quoted, List.cons_append, List.append_assoc, List.cons_append, List.nil_append, readValue?, if_neg (by decide),
    if_neg (by decide), if_pos rfl, readText?_flatMap, Option.map_some]

theorem isRead_pair {readOne : Text → Option (Value × Text)} {v : Value} {t : Text} (h : IsRead readOne v t)
    (k : Text) : IsRead (readPair? readOne) (.text k, v) (quoted k ++ [':', ' '] ++ t) := by
  refine ⟨⟨'"', _, rfl, rfl⟩, ?_⟩
  intro rest hrest
  have hblank : skip (' ' :: (t ++ rest)) = t ++ rest := h.skip_append rest
  rw [quoted]
  simp only [List.cons_append, List.append_assoc, List.nil_append]
  rw [readPair?, readText?_flatMap]
  simp only [Option.bind_eq_bind, Option.bind_some]
  rw [skip_cons rfl]
  simp only [hblank, h.reads rest hrest]
  rfl

theorem renderItems_eq_map (level : Nat) (vs : List Value) : renderItems level vs = vs.map (render (level + 1)) := by
  induction vs with
  | nil => rfl
  | cons v vs ih => rw [renderItems, ih, List.map_cons]

theorem renderEntries_eq_map (level : Nat) (es : List (Value × Value))
    : renderEntries level es = es.map fun e => quoted (keyText e.1) ++ [':', ' '] ++ render (level + 1) e.2 := by
  induction es with
  | nil => rfl
  | cons e es ih => rw [renderEntries, ih, List.map_cons]

theorem isRead_list {fuel : Nat} {vs : List Value} {ts : List Text}
    (h : List.Forall₂ (IsRead (readValue? fuel)) vs ts) (level : Nat)
    : IsRead (readValue? (fuel + 1)) (.list vs) (bracketed level '[' ']' ts) := by
  rcases readBracketed?_bracketed isClosing_square h level '[' with ⟨body, hbody, hread⟩
  refine ⟨⟨'[', body, hbody, rfl⟩, ?_⟩
  intro rest _
  rw [hbody, List.cons_append, readValue?, if_neg (by decide), if_neg (by decide), if_neg (by decide), if_pos rfl,
    hread, Option.map_some]

theorem isRead_map {fuel : Nat} {es : List (Value × Value)} {ts : List Text}
    (h : List.Forall₂ (IsRead (readPair? (readValue? fuel))) es ts) (level : Nat)
    : IsRead (readValue? (fuel + 1)) (.map es) (bracketed level '\x7b' '\x7d' ts) := by
  rcases readBracketed?_bracketed isClosing_curly h level '\x7b' with ⟨body, hbody, hread⟩
  refine ⟨⟨'\x7b', body, hbody, rfl⟩, ?_⟩
  intro rest _
  rw [hbody, List.cons_append, readValue?, if_neg (by decide), if_neg (by decide), if_neg (by decide),
    if_neg (by decide), if_pos rfl, hread, Option.map_some]

-- A word such as `null` is read if no other value begins with its letter.
theorem isRead_word {fuel : Nat} {v : Value} {c : Char} {cs : Text} (hbegins : canBegin c = true)
    (hother : c.isDigit = false ∧ c ≠ '-' ∧ c ≠ '"' ∧ c ≠ '[' ∧ c ≠ '\x7b')
    (hread : ∀ rest, readWord? (c :: cs ++ rest) = some (v, rest))
    : IsRead (readValue? (fuel + 1)) v (c :: cs) := by
  refine ⟨⟨c, cs, rfl, hbegins⟩, ?_⟩
  intro rest _
  rcases hother with ⟨hdigit, hminus, hquote, hsquare, hcurly⟩
  rw [List.cons_append, readValue?, hdigit, if_neg Bool.false_ne_true, if_neg hminus, if_neg hquote, if_neg hsquare,
    if_neg hcurly, ← List.cons_append, hread]

-- The fuel bounds how deep brackets are nested, and each of them takes up room in the text.
theorem isRead_render {v : Value} (h : v.IsPlain) {fuel level : Nat} (hfuel : (render level v).length ≤ fuel)
    : IsRead (readValue? (fuel + 1)) v (render level v) := by
  induction h generalizing fuel level with
  | null => exact isRead_word rfl (by decide) fun rest => rfl
  | bool b =>
    cases b with
    | false => exact isRead_word rfl (by decide) fun rest => rfl
    | true => exact isRead_word rfl (by decide) fun rest => rfl
  | int n => exact isRead_int fuel n
  | text t => exact isRead_quoted fuel t
  | @list vs items ih =>
    rw [render, renderItems_eq_map] at hfuel ⊢
    apply isRead_list
    rw [List.forall₂_map_right_iff, List.forall₂_same]
    intro v hv
    have hmem : render (level + 1) v ∈ vs.map (render (level + 1)) := List.mem_map_of_mem hv
    have hlt := length_le_bracketed hmem level '[' ']'
    obtain ⟨fuel, rfl⟩ : ∃ n, fuel = n + 1 := Nat.exists_eq_add_one.mpr (by omega)
    exact ih v hv (by omega)
  | @map es keys values ih =>
    rw [render, renderEntries_eq_map] at hfuel ⊢
    apply isRead_map
    rw [List.forall₂_map_right_iff, List.forall₂_same]
    rintro ⟨k, v⟩ he
    rcases keys _ he with ⟨t, rfl⟩
    have hmem := List.mem_map_of_mem (f := fun e => quoted (keyText e.1) ++ [':', ' '] ++ render (level + 1) e.2) he
    have hlt := length_le_bracketed hmem level '\x7b' '\x7d'
    rw [List.length_append] at hlt
    obtain ⟨fuel, rfl⟩ : ∃ n, fuel = n + 1 := Nat.exists_eq_add_one.mpr (by omega)
    exact isRead_pair (ih _ he (by omega)) t

theorem read?_render {v : Value} (h : v.IsPlain) (level : Nat) : read? (render level v ++ ['\n']) = some v := by
  have hlength : (render level v).length ≤ (render level v ++ ['\n']).length := by
    rw [List.length_append]
    omega
  have hread := isRead_render h hlength
  rw [read?, hread.skip_append, hread.reads _ (endsNumber_cons rfl [])]
  rfl

end Json
end IdentSearch
