import IdentSearch.HumpCache
import IdentSearch.Proofs.Checked.Access
import IdentSearch.Proofs.Hump.Locality

/-!
Breaking a text into humps, position by position: the open hump is known by its start only, and the
characters before and behind a position are looked up in the text.
-/

namespace IdentSearch.Checked

def endsRun (t : Text) (start i : Nat) : Except Fault Bool := do
  if i = start || decide (t.length ≤ i + 1) then return false
  if !Text.isUpper (← nth t i) then return false
  if !Text.isLower (← nth t (i + 1)) then return false
  return (t.slice start (i - start)).all Text.isUpper

def cuts (b : Breaking) (t : Text) (start i : Nat) (c : Char) : Except Fault Bool := do
  if Text.isDigit (← nth t (i - 1)) != Text.isDigit c then return true
  let previous ← nth t (i - 1)
  let current ← nth t i
  match b with
  | .characters => return Text.isUpper current
  | .words =>
    if Text.isUpper current && !Text.isUpper previous then return true
    endsRun t start i

/-- The humps from position `i` on; `start?` is where the open one starts. -/
def scan (b : Breaking) (t : Text) (start? : Option Nat) (i : Nat) : Text → Except Fault Spans
  | [] =>
    match start? with
    | none => return []
    | some start => return [← span start (t.length - start)]
  | c :: cs =>
    match start? with
    | none => scan b t (if Text.isWordChar c then some i else none) (i + 1) cs
    | some start => do
      if !Text.isWordChar c then
        return (← span start (i - start)) :: (← scan b t none (i + 1) cs)
      if ← cuts b t start i c then
        return (← span start (i - start)) :: (← scan b t (some i) (i + 1) cs)
      scan b t (some start) (i + 1) cs

def humps (b : Breaking) (t : Text) : Except Fault Spans := scan b t none 0 t

/-! ### No fault -/

variable {b : Breaking} {t : Text} {i : Nat} {h : OpenHump} {c : Char}

def TellsRun (t : Text) (h : OpenHump) : Prop := h.allUpper = (h.span.textOf t).all Text.isUpper

theorem slice_succ {start n : Nat} (hc : t[start + n]? = some c)
    : t.slice start (n + 1) = t.slice start n ++ [c] := by
  rw [Text.slice, List.take_add_one, List.getElem?_drop, hc]
  rfl

theorem tellsRun_single (hc : t[i]? = some c) : TellsRun t (.single i c) := by
  have hslice : t.slice i 1 = [c] := slice_succ (n := 0) hc
  unfold TellsRun OpenHump.span OpenHump.single Span.textOf
  rw [hslice]
  simp

theorem TellsRun.extend (htells : TellsRun t h) (hc : t[h.start + h.length]? = some c)
    : TellsRun t (h.extend c) := by
  unfold TellsRun OpenHump.span Span.textOf at *
  unfold OpenHump.extend
  rw [slice_succ hc, List.all_append, ← htells]
  simp

theorem endsRun_eq_ok (hopen : b.IsOpen t i h) (htells : TellsRun t h) (hc : t[i]? = some c)
    : endsRun t h.start i = .ok (Text.isUpper c && (t[i + 1]?.any Text.isLower && h.allUpper)) := by
  have hne : i ≠ h.start := by
    have := hopen.stop
    have := hopen.positive
    omega
  unfold endsRun
  cases hnext : t[i + 1]? with
  | none =>
    have hlen : t.length ≤ i + 1 := List.getElem?_eq_none_iff.mp hnext
    simp [hlen]
  | some d =>
    have hlen : ¬ t.length ≤ i + 1 := by
      have := (List.getElem?_eq_some_iff.mp hnext).1
      omega
    have hcurrent : nth t (i : Int) = .ok c := nth_eq_ok rfl hc
    have hfollowing : nth t ((i : Int) + 1) = .ok d := nth_eq_ok rfl hnext
    have hrun : (t.slice h.start (i - h.start)).all Text.isUpper = h.allUpper := by
      have hlength : i - h.start = h.length := by
        have := hopen.stop
        omega
      rw [hlength]
      exact htells.symm
    rw [hcurrent, hfollowing]
    simp only [ok_bind, pure_eq_ok, hrun, hne, hlen, decide_false, Bool.or_self, if_false,
      Bool.false_eq_true, Option.any_some]
    cases Text.isUpper c with
    | false => rfl
    | true =>
      cases Text.isLower d with
      | false => rfl
      | true => simp

theorem cuts_eq_ok (hopen : b.IsOpen t i h) (htells : TellsRun t h) (hc : t[i]? = some c)
    : cuts b t h.start i c = .ok (b.cuts h c t[i + 1]?) := by
  have hpos : 1 ≤ i := by
    have := hopen.stop
    have := hopen.positive
    omega
  have hprevious : nth t ((i : Int) - 1) = .ok h.latest := nth_eq_ok (by omega) hopen.latest
  have hcurrent : nth t (i : Int) = .ok c := nth_eq_ok rfl hc
  unfold cuts Breaking.cuts
  rw [hprevious, hcurrent]
  simp only [ok_bind, endsRun_eq_ok hopen htells hc]
  split
  . next hdigit => rw [hdigit]; rfl
  . next hdigit =>
    rw [Bool.not_eq_true] at hdigit
    rw [hdigit, Bool.false_or]
    cases b with
    | characters => rfl
    | words =>
      dsimp only
      rw [Bool.and_comm _ h.allUpper]
      cases Text.isUpper c with
      | false => rfl
      | true =>
        cases Text.isUpper h.latest with
        | false => rfl
        | true => rfl

-- The induction is on the characters that are left. The open hump is the one that the plain scan carries.
theorem scan_eq_ok (rest : Text) (open? : Option OpenHump) (hrest : t.drop i = rest)
    (hscan : b.Scanned t i open?) (htells : ∀ h, open? = some h → TellsRun t h)
    : scan b t (open?.map (·.start)) i rest = .ok (Breaking.humps.go b i open? rest) := by
  induction rest generalizing i open? with
  | nil =>
    cases open? with
    | none => rfl
    | some h =>
      have hspan : span h.start ((t.length : Int) - h.start) = .ok h.span := by
        have hlen : t.length ≤ i := List.drop_eq_nil_iff.mp hrest
        have hlatest := (List.getElem?_eq_some_iff.mp hscan.latest).1
        have := hscan.stop
        exact span_eq_ok rfl (by omega)
      unfold scan Breaking.humps.go
      dsimp only [Option.map_some]
      rw [hspan]
      rfl
  | cons c cs ih =>
    rcases getElem?_of_drop hrest with ⟨hc, hcs⟩
    have hnext : cs.head? = t[i + 1]? := by
      rw [← hcs, List.head?_drop]
    have hskip : Text.isWordChar c = false
        → scan b t none (i + 1) cs = .ok (Breaking.humps.go b (i + 1) none cs) := by
      intro hword
      apply ih none hcs (Breaking.scanned_none_of_not_word hc hword)
      intro h hnone
      cases hnone
    have hstart : b.StartsAt t i
        → scan b t (some i) (i + 1) cs = .ok (Breaking.humps.go b (i + 1) (some (.single i c)) cs) := by
      intro hstart
      apply ih (some (.single i c)) hcs (Breaking.isOpen_single hstart hc)
      rintro h ⟨⟩
      exact tellsRun_single hc
    cases open? with
    | none =>
      unfold scan Breaking.humps.go
      by_cases hword : Text.isWordChar c = true
      . rw [if_pos hword, if_pos hword]
        exact hstart (hscan.startsAt hc hword)
      . rw [if_neg hword, if_neg hword]
        rw [Bool.not_eq_true] at hword
        exact hskip hword
    | some h =>
      have hspan : span h.start ((i : Int) - h.start) = .ok h.span := by
        have := hscan.stop
        exact span_eq_ok rfl (by omega)
      unfold scan Breaking.humps.go
      dsimp only [Option.map_some]
      rw [hspan, hnext, cuts_eq_ok hscan (htells h rfl) hc]
      simp only [ok_bind]
      split
      . next hword =>
        rw [Bool.not_eq_true'] at hword
        rw [hskip hword]
        rfl
      . next hword =>
        rw [Bool.not_eq_true', Bool.not_eq_false] at hword
        split
        . next hcut =>
          rw [hstart ((Breaking.IsOpen.startsAt_iff hscan hc hword).mpr hcut)]
          rfl
        . next hcut =>
          rw [Bool.not_eq_true] at hcut
          apply ih (some (h.extend c)) hcs (Breaking.IsOpen.extend hscan hc hword hcut)
          rintro h' ⟨⟩
          apply (htells h rfl).extend
          rw [hscan.stop]
          exact hc

theorem humps_eq_ok (b : Breaking) (t : Text) : humps b t = .ok (b.humps t) := by
  apply scan_eq_ok t none List.drop_zero (.inl rfl)
  intro h hnone
  cases hnone

end IdentSearch.Checked
