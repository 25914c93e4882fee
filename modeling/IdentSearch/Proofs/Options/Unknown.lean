import IdentSearch.Proofs.Except
import IdentSearch.Proofs.Options.Entries
import IdentSearch.Proofs.Text.Order

/-!
Keys that name no option. If all of them are texts, they are reported in order; a single other key keeps them
from being listed at all.
-/

namespace IdentSearch

namespace Options

/-! ### Which keys are unknown -/

theorem mem_unknownKeys {es : Entries} {k : Value}
    : k ∈ unknownKeys es ↔ k ∈ es.map (·.1) ∧ ∀ o : OptionName, k ≠ .ofString o.name := by
  rw [unknownKeys, List.mem_filter, Option.isNone_iff_eq_none, Option.eq_none_iff_forall_ne_some]
  simp only [ne_eq, OptionName.ofKey?_eq_some]

def addUnknown (ks : List Value) (k : Value) : List Value :=
  if (OptionName.ofKey? k).isSome || ks.any (·.sameKey k) then ks else ks ++ [k]

theorem unknownKeys_cons (e : Value × Value) (es : Entries)
    : unknownKeys (e :: es)
        =
      if (OptionName.ofKey? e.1).isNone then e.1 :: unknownKeys es else unknownKeys es := by
  unfold unknownKeys
  rw [List.map_cons, List.filter_cons]

theorem mem_unknownKeys_cons {e : Value × Value} {es : Entries} {k : Value}
    : k ∈ unknownKeys (e :: es) ↔ k = e.1 ∧ OptionName.ofKey? k = none ∨ k ∈ unknownKeys es := by
  simp only [unknownKeys, List.mem_filter, List.map_cons, List.mem_cons, Option.isNone_iff_eq_none, or_and_right]

theorem unknownKeys_put (t : Text) (v : Value) (es : Entries)
    : unknownKeys (es.put (.text t) v) = addUnknown (unknownKeys es) (.text t) := by
  induction es with
  | nil =>
    rw [Entries.put, unknownKeys_cons, addUnknown]
    cases OptionName.ofKey? (.text t) with
    | none => rfl
    | some o => rfl
  | cons e es ih =>
    rw [Entries.put, unknownKeys_cons]
    split
    . next hsame =>
      rw [unknownKeys_cons, addUnknown]
      rw [Value.sameKey_text] at hsame
      cases hknown : OptionName.ofKey? (.text t) with
      | none => simp [hsame, hknown, Value.sameKey]
      | some o => rfl
    . next hother =>
      rw [unknownKeys_cons, ih]
      split
      . unfold addUnknown
        rw [List.any_cons, Bool.eq_false_iff.mpr hother, Bool.false_or]
        split
        . rfl
        . rfl
      . rfl

theorem unknownKeys_update {newer : Entries} (h : newer.AreNamed) (es : Entries)
    : unknownKeys (es.update newer) = (newer.map (·.1)).foldl addUnknown (unknownKeys es) := by
  induction newer generalizing es with
  | nil => rfl
  | cons e newer ih =>
    rcases Entries.areNamed_cons.mp h with ⟨⟨t, ht⟩, _, hnewer⟩
    rw [Entries.update_cons, ih hnewer, ht, unknownKeys_put, List.map_cons, List.foldl_cons, ht]

theorem unknownKeys_update_listed (value? : OptionName → Option Value) (es : Entries)
    : unknownKeys (es.update (OptionName.listed value?)) = unknownKeys es := by
  rw [unknownKeys_update (OptionName.listed_areNamed value?)]
  apply List.foldlRecOn (motive := fun ks => ks = unknownKeys es)
  . rfl
  . intro ks hks k hk
    rcases List.mem_map.mp hk with ⟨e, he, rfl⟩
    rcases OptionName.mem_listed.mp he with ⟨o, v, _, rfl⟩
    rw [addUnknown, OptionName.ofKey?_eq_some.mpr rfl]
    exact hks

theorem mem_addUnknown {ks : List Value} {t : Text} {k : Value}
    : k ∈ addUnknown ks (.text t) ↔ k ∈ ks ∨ k = .text t ∧ OptionName.ofKey? k = none := by
  unfold addUnknown
  split
  . next hold =>
    rw [Bool.or_eq_true, List.any_eq_true] at hold
    constructor
    . exact .inl
    . rintro (hk | ⟨rfl, hunknown⟩)
      . exact hk
      . rcases hold with hknown | ⟨l, hl, hsame⟩
        . rw [hunknown] at hknown
          cases hknown
        . rw [Value.sameKey_text] at hsame
          exact hsame ▸ hl
  . next hnew =>
    rw [Bool.or_eq_true, not_or, Bool.not_eq_true, Option.isSome_eq_false_iff, Option.isNone_iff_eq_none] at hnew
    rw [List.mem_append, List.mem_singleton]
    constructor
    . rintro (hk | rfl)
      . exact .inl hk
      . exact .inr ⟨rfl, hnew.1⟩
    . rintro (hk | ⟨rfl, _⟩)
      . exact .inl hk
      . exact .inr rfl

theorem mem_unknownKeys_update {newer : Entries} (h : newer.AreNamed) {es : Entries} {k : Value}
    : k ∈ unknownKeys (es.update newer) ↔ k ∈ unknownKeys es ∨ k ∈ unknownKeys newer := by
  induction newer generalizing es with
  | nil => simp [Entries.update, unknownKeys]
  | cons e newer ih =>
    rcases Entries.areNamed_cons.mp h with ⟨⟨t, ht⟩, _, hnewer⟩
    rw [Entries.update_cons, ih hnewer, ht, unknownKeys_put, mem_addUnknown, mem_unknownKeys_cons, ht, or_assoc]

/-! ### How they are reported -/

theorem insertKey_text (t : Text) (us : List Text)
    : insertKey (.text t) (us.map .text) = .ok ((us.orderedInsert Text.AtMost t).map .text) := by
  induction us with
  | nil => rfl
  | cons u us ih =>
    rw [List.map_cons, insertKey, List.orderedInsert_cons]
    have hcompare : compareKeys (.text u) (.text t) = some (u.compare t) := rfl
    rw [hcompare]
    cases hlt : u.compare t with
    | lt =>
      rw [if_neg (fun h => Text.atMost_iff.mp h hlt), ih]
      rfl
    | eq | gt =>
      rw [if_pos (Text.atMost_iff.mpr (by rw [hlt]; decide))]
      rfl

theorem sortKeys_texts (ts : List Text)
    : sortKeys (ts.map .text) = .ok ((ts.insertionSort Text.AtMost).map .text) := by
  induction ts with
  | nil => rfl
  | cons t ts ih =>
    rw [List.map_cons, sortKeys, ih, List.insertionSort_cons]
    exact insertKey_text t _

theorem insertKey_perm {k : Value} {ks sorted : List Value} (h : insertKey k ks = .ok sorted)
    : sorted.Perm (k :: ks) := by
  induction ks generalizing sorted with
  | nil =>
    cases h
    exact List.Perm.refl _
  | cons l ks ih =>
    rw [insertKey] at h
    split at h
    . cases h
    . rcases Except.map_eq_ok.mp h with ⟨rest, hrest, rfl⟩
      exact ((ih hrest).cons l).trans (List.Perm.swap k l ks)
    . cases h
      exact List.Perm.refl _

theorem sortKeys_perm {ks sorted : List Value} (h : sortKeys ks = .ok sorted) : sorted.Perm ks := by
  induction ks generalizing sorted with
  | nil =>
    cases h
    exact List.Perm.refl _
  | cons k ks ih =>
    rcases Except.bind_eq_ok.mp h with ⟨rest, hrest, hsorted⟩
    exact (insertKey_perm hsorted).trans ((ih hrest).cons k)

theorem unknownError_texts (ts : List Text)
    : unknownError (ts.map .text) = .unknown (ts.insertionSort Text.AtMost) := by
  generalize hsorted : ts.insertionSort Text.AtMost = us
  have hfind : (us.map Value.text).find? (fun k => !unknownError.isText k) = none := by
    rw [List.find?_map, Option.map_eq_none_iff, List.find?_eq_none]
    intro u _
    exact Bool.noConfusion
  have hnames : (us.map Value.text).filterMap unknownError.textOf? = us := by
    rw [List.filterMap_map]
    exact List.filterMap_some
  unfold unknownError
  rw [sortKeys_texts, hsorted]
  dsimp only
  rw [hfind, hnames]

theorem exists_texts {ks : List Value} (h : ∀ k ∈ ks, ∃ t, k = .text t) : ∃ ts : List Text, ks = ts.map .text := by
  induction ks with
  | nil => exact ⟨[], rfl⟩
  | cons k ks ih =>
    rw [List.forall_mem_cons] at h
    rcases h with ⟨⟨t, rfl⟩, hks⟩
    rcases ih hks with ⟨ts, rfl⟩
    exact ⟨t :: ts, rfl⟩

theorem insertKey_preventsListing {k : Value} {ks : List Value} {e : Error} (h : insertKey k ks = .error e)
    : e.preventsListing = true := by
  induction ks with
  | nil => cases h
  | cons l ks ih =>
    rw [insertKey] at h
    split at h
    . cases h
      rfl
    . exact ih (Except.map_eq_error.mp h)
    . cases h

theorem sortKeys_preventsListing {ks : List Value} {e : Error} (h : sortKeys ks = .error e)
    : e.preventsListing = true := by
  induction ks with
  | nil => cases h
  | cons k ks ih =>
    rcases Except.bind_eq_error.mp h with hrest | ⟨rest, _, hinsert⟩
    . exact ih hrest
    . exact insertKey_preventsListing hinsert

theorem unknownError_preventsListing {ks : List Value}
    : (unknownError ks).preventsListing = true ↔ ∃ k ∈ ks, ∀ t, k ≠ .text t := by
  constructor
  . intro h
    by_contra hnone
    push Not at hnone
    rcases exists_texts hnone with ⟨ts, rfl⟩
    rw [unknownError_texts] at h
    cases h
  . rintro ⟨k, hk, hother⟩
    unfold unknownError
    split
    . next e he => exact sortKeys_preventsListing he
    . next sorted hsorted =>
      split
      . rfl
      . next hfind =>
        rw [List.find?_eq_none] at hfind
        have hlisted := hfind k ((sortKeys_perm hsorted).mem_iff.mpr hk)
        cases k with
        | text t => exact absurd rfl (hother t)
        | _ => exact absurd rfl hlisted

end Options
end IdentSearch
