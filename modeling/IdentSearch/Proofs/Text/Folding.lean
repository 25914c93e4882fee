import Mathlib.Tactic.Common
import IdentSearch.Alignment

/-!
Folding goes character by character, whichever way it is computed. Every comparison of texts is an
equation between what the comparison sees of them.
-/

namespace IdentSearch
namespace Folding

theorem foldChar_plain_of_isAscii {c : Char} (h : Text.isAscii c = true)
    : foldChar .plain c = lowerAscii c := by
  unfold foldChar
  split
  . next heq => cases heq
  . next => exact absurd h (by decide)
  . rw [Text.lowerChar, if_pos h, lowerAscii]

theorem fold_eq_map (f : Folding) (t : Text) : f.fold t = t.map f.foldChar := by
  unfold fold
  cases f with
  | turkic => rfl
  | plain =>
    dsimp
    split
    . next hascii =>
      apply List.map_congr_left
      intro c hc
      rw [foldChar_plain_of_isAscii (List.all_eq_true.mp hascii c hc)]
    . rfl

def view (f : Folding) (ignoreCase : Bool) (t : Text) : Text := if ignoreCase then f.fold t else t

def viewChar (f : Folding) (ignoreCase : Bool) : Char → Char := if ignoreCase then f.foldChar else id

variable {f : Folding} {ignoreCase : Bool}

@[simp]
theorem view_true (t : Text) : f.view true t = f.fold t := rfl

@[simp]
theorem view_false (t : Text) : f.view false t = t := rfl

theorem view_eq_map (t : Text) : f.view ignoreCase t = t.map (f.viewChar ignoreCase) := by
  cases ignoreCase with
  | true => exact f.fold_eq_map t
  | false => exact (List.map_id t).symm

@[simp]
theorem length_view (f : Folding) (ignoreCase : Bool) (t : Text) : (f.view ignoreCase t).length = t.length := by
  rw [view_eq_map, List.length_map]

theorem view_append (t u : Text)
    : f.view ignoreCase (t ++ u) = f.view ignoreCase t ++ f.view ignoreCase u := by
  simp only [view_eq_map, List.map_append]

theorem view_take (n : Nat) (t : Text) : f.view ignoreCase (t.take n) = (f.view ignoreCase t).take n := by
  simp only [view_eq_map, List.map_take]

theorem view_drop (n : Nat) (t : Text) : f.view ignoreCase (t.drop n) = (f.view ignoreCase t).drop n := by
  simp only [view_eq_map, List.map_drop]

theorem view_slice (t : Text) (start length : Nat)
    : f.view ignoreCase (t.slice start length) = (f.view ignoreCase t).slice start length := by
  rw [Text.slice, view_take, view_drop, Text.slice]

theorem view_flatten (ts : List Text)
    : f.view ignoreCase ts.flatten = (ts.map (f.view ignoreCase)).flatten := by
  induction ts with
  | nil => exact List.eq_nil_of_length_eq_zero (length_view f ignoreCase [])
  | cons t ts ih => rw [List.flatten_cons, view_append, ih, List.map_cons, List.flatten_cons]

/-! ### Comparisons -/

theorem equals_iff {t u : Text}
    : f.equals ignoreCase t u = true ↔ f.view ignoreCase t = f.view ignoreCase u := by
  unfold equals
  cases ignoreCase with
  | false => simp
  | true =>
    rw [if_pos rfl, Bool.and_eq_true, beq_iff_eq, beq_iff_eq, view_true, view_true]
    constructor
    . exact And.right
    . intro h
      refine ⟨?_, h⟩
      rw [← length_view f true t, view_true, h, ← view_true, length_view]

theorem startsWith_iff {t beginning : Text}
    : f.startsWith ignoreCase t beginning = true
        ↔
      f.view ignoreCase beginning <+: f.view ignoreCase t := by
  rw [startsWith, Bool.and_eq_true, decide_eq_true_eq, equals_iff, view_take, List.prefix_iff_eq_take,
    length_view]
  constructor
  . rintro ⟨_, h⟩
    exact h.symm
  . intro h
    refine ⟨?_, h.symm⟩
    have := congrArg List.length h
    simp only [List.length_take, length_view] at this
    omega

theorem partStartsWith_iff {candidate pattern : Text} {part patternPart : Span}
    : f.partStartsWith ignoreCase candidate part pattern patternPart = true
        ↔
      patternPart.length ≤ part.length ∧
        f.view ignoreCase (candidate.slice part.start patternPart.length) =
          f.view ignoreCase (patternPart.textOf pattern) := by
  rw [partStartsWith, Bool.and_eq_true, decide_eq_true_eq, regionEquals, equals_iff, Span.textOf]

theorem indexOf_eq_find? (t value : Text)
    : f.indexOf ignoreCase t value =
        Text.find? (f.view ignoreCase value) (f.view ignoreCase t) := by
  cases ignoreCase with
  | true => rfl
  | false => rfl

end Folding

namespace Text

theorem prefix_of_find?_eq_some {value t : Text} {i : Nat} (h : find? value t = some i)
    : value <+: t.drop i := by
  induction t generalizing i with
  | nil =>
    unfold find? at h
    split at h
    . next hempty =>
      rw [List.isEmpty_iff.mp hempty]
      exact List.nil_prefix
    . cases h
  | cons c cs ih =>
    unfold find? at h
    split at h
    . next hprefix =>
      cases h
      exact List.isPrefixOf_iff_prefix.mp hprefix
    . rcases Option.map_eq_some_iff.mp h with ⟨j, hj, rfl⟩
      exact ih hj

theorem find?_eq_zero_iff {value t : Text} : find? value t = some 0 ↔ value <+: t := by
  constructor
  . intro h
    exact prefix_of_find?_eq_some h
  . intro h
    cases t with
    | nil => rw [List.prefix_nil.mp h, find?_nil]
    | cons c cs => rw [find?, if_pos (List.isPrefixOf_iff_prefix.mpr h)]

end Text

namespace Folding

variable {f : Folding} {ignoreCase : Bool}

theorem view_slice_of_indexOf_eq_some {t value : Text} {i : Nat}
    (h : f.indexOf ignoreCase t value = some i)
    : f.view ignoreCase (t.slice i value.length) = f.view ignoreCase value := by
  rw [indexOf_eq_find?] at h
  have := List.prefix_iff_eq_take.mp (Text.prefix_of_find?_eq_some h)
  rw [view_slice, Text.slice, ← length_view f ignoreCase value, ← this]

end Folding
end IdentSearch
