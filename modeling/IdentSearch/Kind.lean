/-!
The kinds of matches, from the weakest to the strongest.
-/

namespace IdentSearch

inductive Kind
  | fuzzy
  | substring
  -- Humps are left out, also at the beginning.
  | camelNonContiguous
  -- Humps are left out, but not the first.
  | camelNonContiguousFromStart
  -- Neighbouring humps inside the candidate.
  | camelSubstring
  -- Neighbouring humps up to the last one.
  | camelContiguous
  -- Neighbouring humps from the first on.
  | camelContiguousFromStart
  | camelExact
  | beginning
  | exact
deriving DecidableEq, Repr

namespace Kind

def all : List Kind := [
  .fuzzy, .substring, .camelNonContiguous, .camelNonContiguousFromStart, .camelSubstring,
  .camelContiguous, .camelContiguousFromStart, .camelExact, .beginning, .exact]

def rank : Kind → Nat
  | fuzzy => 0
  | substring => 1
  | camelNonContiguous => 2
  | camelNonContiguousFromStart => 3
  | camelSubstring => 4
  | camelContiguous => 5
  | camelContiguousFromStart => 6
  | camelExact => 7
  | beginning => 8
  | exact => 9

def name : Kind → String
  | fuzzy => "fuzzy"
  | substring => "substring"
  | camelNonContiguous => "camel_case_non_contiguous"
  | camelNonContiguousFromStart => "camel_case_non_contiguous_from_start"
  | camelSubstring => "camel_case_substring"
  | camelContiguous => "camel_case_contiguous"
  | camelContiguousFromStart => "camel_case_contiguous_from_start"
  | camelExact => "camel_case_exact"
  | beginning => "prefix"
  | exact => "exact"

def ofName? (name : String) : Option Kind := all.find? fun k => k.name == name

def isCamel (k : Kind) : Bool := decide (2 ≤ k.rank) && decide (k.rank ≤ 7)

def weaker (k l : Kind) : Kind := if l.rank < k.rank then l else k

theorem rank_injective {k l : Kind} (h : k.rank = l.rank) : k = l := by
  cases k <;> cases l <;> first | rfl | (simp [rank] at h)

@[simp]
theorem rank_weaker (k l : Kind) : (k.weaker l).rank = min k.rank l.rank := by
  unfold weaker
  rw [Nat.min_def]
  split <;> split <;> omega

end Kind
end IdentSearch
