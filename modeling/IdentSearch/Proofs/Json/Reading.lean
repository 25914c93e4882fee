import IdentSearch.Json
import IdentSearch.Text.Number
import Mathlib.Tactic.Common

/-!
Reading JSON. A reader takes something off the beginning of a text and leaves what stands behind it. White space
between the parts of a value does not matter; of the numbers only whole ones are read.
-/

namespace IdentSearch.Json

/-! ### Texts -/

def ofHexadecimal? (digits : Text) : Option Nat :=
  digits.foldlM (fun n c => (Text.hexDigit? c).map fun d => 16 * n + d) 0

def readUnit? (t : Text) : Option (Nat × Text) :=
  if t.length < 4 then none else (ofHexadecimal? (t.take 4)).map fun n => (n, t.drop 4)

def ofCode? (n : Nat) : Option Char := if n.isValidChar then some (Char.ofNat n) else none

/-- The character that one unit makes up, or two of them if the first one needs another. -/
def readUnits? (t : Text) : Option (Char × Text) := do
  let (first, t) ← readUnit? t
  if 0xD800 ≤ first ∧ first < 0xDC00 then
    match t with
    | '\\' :: 'u' :: t =>
      let (second, t) ← readUnit? t
      if 0xDC00 ≤ second ∧ second < 0xE000 then
        (ofCode? (0x10000 + (first - 0xD800) * 0x400 + (second - 0xDC00))).map fun c => (c, t)
      else none
    | _ => none
  else (ofCode? first).map fun c => (c, t)

def unescaped? : Char → Option Char
  | '"' => some '"'
  | '\\' => some '\\'
  | '/' => some '/'
  | 'n' => some '\n'
  | 'r' => some '\r'
  | 't' => some '\t'
  | 'b' => some '\x08'
  | 'f' => some '\x0C'
  | _ => none

def readChar? : Text → Option (Char × Text)
  | '\\' :: 'u' :: t => readUnits? t
  | '\\' :: c :: t => (unescaped? c).map fun d => (d, t)
  | c :: t => if c = '"' ∨ c = '\\' ∨ c.toNat < 0x20 then none else some (c, t)
  | [] => none

def readQuoted? : (fuel : Nat) → Text → Option (Text × Text)
  | 0, _ => none
  | fuel + 1, t =>
    if t.head? = some '"' then some ([], t.tail)
    else do
      let (c, t) ← readChar? t
      let (cs, t) ← readQuoted? fuel t
      return (c :: cs, t)

def readText? (t : Text) : Option (Text × Text) := readQuoted? (t.length + 1) t

/-! ### Values -/

def isBlank (c : Char) : Bool := c = ' ' || c = '\n' || c = '\r' || c = '\t'

def skip (t : Text) : Text := t.dropWhile isBlank

def readDigits? (t : Text) : Option (Nat × Text) :=
  let digits := t.takeWhile Char.isDigit
  if digits.isEmpty then none else some (Nat.ofDigitChars 10 digits 0, t.dropWhile Char.isDigit)

def words : List (Text × Value) := [
  ("null".toList, .null), ("true".toList, .bool true), ("false".toList, .bool false)]

def readWord? (t : Text) : Option (Value × Text) :=
  words.findSome? fun w => if w.1.isPrefixOf t then some (w.2, t.drop w.1.length) else none

section
variable {α : Type} (closing : Char) (readOne : Text → Option (α × Text))

def readSeparated? : (fuel : Nat) → Text → Option (List α × Text)
  | 0, _ => none
  | fuel + 1, t => do
    let (x, t) ← readOne (skip t)
    match skip t with
    | [] => none
    | c :: t =>
      if c = closing then return ([x], t)
      else if c = ',' then
        let (xs, t) ← readSeparated? fuel t
        return (x :: xs, t)
      else none

def readBracketed? (t : Text) : Option (List α × Text) :=
  match skip t with
  | [] => none
  | c :: rest => if c = closing then some ([], rest) else readSeparated? closing readOne t.length t

end

def readPair? (readOne : Text → Option (Value × Text)) : Text → Option ((Value × Value) × Text)
  | '"' :: t => do
    let (k, t) ← readText? t
    match skip t with
    | ':' :: t =>
      let (v, t) ← readOne (skip t)
      return ((.text k, v), t)
    | _ => none
  | _ => none

def readValue? : (fuel : Nat) → Text → Option (Value × Text)
  | 0, _ => none
  | _ + 1, [] => none
  | fuel + 1, c :: t =>
    if c.isDigit then (readDigits? (c :: t)).map fun (n, t) => (.int n, t)
    else if c = '-' then (readDigits? t).map fun (n, t) => (.int (-n), t)
    else if c = '"' then (readText? t).map fun (u, t) => (.text u, t)
    else if c = '[' then (readBracketed? ']' (readValue? fuel) t).map fun (vs, t) => (.list vs, t)
    else if c = '\x7b' then
      (readBracketed? '\x7d' (readPair? (readValue? fuel)) t).map fun (es, t) => (.map es, t)
    else readWord? (c :: t)

def read? (t : Text) : Option Value := do
  let (v, rest) ← readValue? (t.length + 1) (skip t)
  if (skip rest).isEmpty then return v else none

/-! ### Texts that were written -/

theorem hexDigit?_digitChar {d : Nat} (h : d < 16) : Text.hexDigit? d.digitChar = some d := by
  have hall : ∀ d < 16, Text.hexDigit? (Nat.digitChar d) = some d := by decide
  exact hall d h

theorem ofHexadecimal?_toDigits (n : Nat) : ofHexadecimal? (Nat.toDigits 16 n) = some n := by
  induction n using Nat.strongRecOn with
  | ind n ih =>
    by_cases hlt : n < 16
    . rw [Nat.toDigits_of_lt_base hlt, ofHexadecimal?, List.foldlM_cons, hexDigit?_digitChar hlt]
      simp
    . have hdiv := ih (n / 16) (Nat.div_lt_self (by omega) (by omega))
      rw [ofHexadecimal?] at hdiv
      rw [Nat.toDigits_of_base_le (by omega) (by omega), ofHexadecimal?, List.foldlM_append, hdiv]
      simp only [Option.bind_eq_bind, Option.bind_some, List.foldlM_cons, List.foldlM_nil,
        hexDigit?_digitChar (Nat.mod_lt n (by omega : 16 > 0)), Option.map_some, Option.pure_def]
      rw [Nat.div_add_mod]

theorem ofHexadecimal?_hexadecimal (width n : Nat) : ofHexadecimal? (Text.hexadecimal width n) = some n := by
  have hzeros : ∀ k, ofHexadecimal? (List.replicate k '0') = some 0 := by
    intro k
    induction k with
    | zero => rfl
    | succ k ih =>
      rw [ofHexadecimal?] at ih
      rw [List.replicate_succ, ofHexadecimal?, List.foldlM_cons]
      exact ih
  have hdigits := ofHexadecimal?_toDigits n
  have hzero := hzeros (width - (Nat.toDigits 16 n).length)
  rw [ofHexadecimal?] at hdigits hzero
  rw [Text.hexadecimal, ofHexadecimal?, List.foldlM_append, hzero]
  exact hdigits

theorem length_hexadecimal {n : Nat} (h : n < 0x10000) : (Text.hexadecimal 4 n).length = 4 := by
  have hle : (Nat.toDigits 16 n).length ≤ 4 := (Nat.length_toDigits_le_iff (by omega) (by omega)).mpr h
  rw [Text.hexadecimal, List.length_append, List.length_replicate]
  omega

theorem readUnit?_hexadecimal {n : Nat} (h : n < 0x10000) (rest : Text)
    : readUnit? (Text.hexadecimal 4 n ++ rest) = some (n, rest) := by
  rw [readUnit?, if_neg, List.take_left' (length_hexadecimal h), List.drop_left' (length_hexadecimal h),
    ofHexadecimal?_hexadecimal]
  . rfl
  . rw [List.length_append, length_hexadecimal h]
    omega

theorem ofCode?_toNat (c : Char) : ofCode? c.toNat = some c := by
  have hvalid : c.toNat.isValidChar := c.valid
  rw [ofCode?, if_pos hvalid, Char.ofNat_toNat]

theorem readUnits?_escapeUnit {c : Char} (h : c.toNat < 0x10000) (rest : Text)
    : readUnits? (Text.hexadecimal 4 c.toNat ++ rest) = some (c, rest) := by
  have hvalid : c.toNat < 0xD800 ∨ 0xDFFF < c.toNat ∧ c.toNat < 0x110000 := c.valid
  rw [readUnits?, readUnit?_hexadecimal h]
  simp only [Option.bind_eq_bind, Option.bind_some]
  rw [if_neg (by omega), ofCode?_toNat, Option.map_some]

theorem readUnits?_escapeUnits {n : Nat} (h : n < 0x100000) (rest : Text)
    : readUnits? (Text.hexadecimal 4 (0xD800 + n / 0x400) ++ (escapeUnit (0xDC00 + n % 0x400) ++ rest))
        =
      (ofCode? (0x10000 + n)).map fun c => (c, rest) := by
  have hsecond : 0xDC00 + n % 0x400 < 0x10000 := by omega
  have hcode : 0x10000 + (0xD800 + n / 0x400 - 0xD800) * 0x400 + (0xDC00 + n % 0x400 - 0xDC00) = 0x10000 + n := by
    omega
  rw [readUnits?, readUnit?_hexadecimal (by omega), escapeUnit]
  simp only [Option.bind_eq_bind, Option.bind_some, List.cons_append, List.nil_append]
  rw [if_pos (by omega), readUnit?_hexadecimal hsecond]
  simp only [Option.bind_some]
  rw [if_pos (by omega), hcode]

theorem readChar?_plain {c : Char} (hquote : c ≠ '"') (hslash : c ≠ '\\') (hvisible : 0x20 ≤ c.toNat) (rest : Text)
    : readChar? (c :: rest) = some (c, rest) := by
  unfold readChar?
  split
  . next heq =>
    cases heq
    exact absurd rfl hslash
  . next heq =>
    cases heq
    exact absurd rfl hslash
  . next heq =>
    cases heq
    rw [if_neg]
    rintro (h | h | h)
    . exact hquote h
    . exact hslash h
    . omega
  . next heq => cases heq

theorem readChar?_quoteChar (c : Char) (rest : Text) : readChar? (quoteChar c ++ rest) = some (c, rest) := by
  unfold quoteChar
  split
  . next h =>
    rcases h with rfl | rfl
    . simp [readChar?, unescaped?]
    . simp [readChar?, unescaped?]
  next hplain =>
  rw [not_or] at hplain
  split
  . next h => simp [h, readChar?, unescaped?]
  split
  . next h => simp [h, readChar?, unescaped?]
  split
  . next h => simp [h, readChar?, unescaped?]
  split
  . next h => simp [h, readChar?, unescaped?]
  split
  . next h => simp [h, readChar?, unescaped?]
  split
  . next h =>
    rw [Text.between, Bool.and_eq_true, decide_eq_true_eq] at h
    exact readChar?_plain hplain.1 hplain.2 h.1 rest
  split
  . next h =>
    rw [escapeUnit, List.append_assoc, List.cons_append, List.cons_append, List.nil_append, readChar?]
    exact readUnits?_escapeUnit h rest
  . next h =>
    have hvalid : c.toNat < 0xD800 ∨ 0xDFFF < c.toNat ∧ c.toNat < 0x110000 := c.valid
    obtain ⟨n, hn⟩ : ∃ n, c.toNat = 0x10000 + n := ⟨c.toNat - 0x10000, by omega⟩
    dsimp only
    rw [hn, Nat.add_sub_cancel_left, escapeUnit, List.append_assoc, List.append_assoc, List.cons_append,
      List.cons_append, List.nil_append, readChar?, readUnits?_escapeUnits (by omega), ← hn, ofCode?_toNat,
      Option.map_some]

theorem head?_quoteChar (c : Char) (rest : Text) : (quoteChar c ++ rest).head? ≠ some '"' := by
  intro h
  have hread := readChar?_quoteChar c rest
  rcases List.head?_eq_some_iff.mp h with ⟨u, hu⟩
  rw [hu] at hread
  simp [readChar?] at hread

theorem readQuoted?_flatMap {t rest : Text} {fuel : Nat} (h : t.length < fuel)
    : readQuoted? fuel (t.flatMap quoteChar ++ '"' :: rest) = some (t, rest) := by
  induction t generalizing fuel with
  | nil =>
    cases fuel with
    | zero => cases h
    | succ fuel => rfl
  | cons c cs ih =>
    cases fuel with
    | zero => cases h
    | succ fuel =>
      rw [List.length_cons, Nat.add_lt_add_iff_right] at h
      rw [List.flatMap_cons, List.append_assoc, readQuoted?, if_neg (head?_quoteChar c _), readChar?_quoteChar]
      simp only [Option.bind_eq_bind, Option.bind_some, ih h]
      rfl

theorem length_le_flatMap_quoteChar (t : Text) : t.length ≤ (t.flatMap quoteChar).length := by
  have hpos : ∀ c, 1 ≤ (quoteChar c).length := by
    intro c
    cases hquoted : quoteChar c with
    | nil =>
      have hread := readChar?_quoteChar c []
      rw [hquoted] at hread
      cases hread
    | cons d ds => simp
  induction t with
  | nil => simp
  | cons c cs ih =>
    have := hpos c
    rw [List.flatMap_cons, List.length_append, List.length_cons]
    omega

theorem readText?_flatMap (t rest : Text)
    : readText? (t.flatMap quoteChar ++ '"' :: rest) = some (t, rest) := by
  apply readQuoted?_flatMap
  have := length_le_flatMap_quoteChar t
  rw [List.length_append]
  omega

end IdentSearch.Json
