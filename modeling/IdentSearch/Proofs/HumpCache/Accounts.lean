import Mathlib.Data.Set.Card
import IdentSearch.HumpCache.Step
import IdentSearch.Proofs.HumpCache.Lookup

/-!
A store of humps does what its history says: it keeps the humps of the texts that were asked for since the
last release, it counts every request once, and once it is closed it keeps nothing any more.
-/

namespace IdentSearch.HumpCache

/-! ### What a history says -/

/--
The step closes the store, by itself or while the humps that it asks for are computed. Such humps are never
kept, so that every request computes them.
-/
def Step.closes (b : Breaker) : Step → Bool
  | .get t => b.closesOn t
  | .close => true
  | _ => false

def Step.releases (b : Breaker) : Step → Bool
  | .clear => true
  | i => i.closes b

def Step.isGet : Step → Bool
  | .get _ => true
  | _ => false

/--
The humps of the text were asked for while the store was open, which their computation did not close, and
no step released them since.
-/
def Kept (b : Breaker) (steps : List Step) (t : Text) : Prop :=
  ∃ earlier later, steps = earlier ++ .get t :: later ∧
    (∀ i ∈ earlier ++ [.get t], i.closes b = false) ∧ ∀ i ∈ later, i.releases b = false

structure Accounts (b : Breaker) (steps : List Step) (c : HumpCache) : Prop where
  humps : ∀ t, (step b (.get t) c).1 = .humps (b.humps t)
  hit : ∀ t, Kept b steps t → (step b (.get t) c).2.hits = c.hits + 1 ∧
    (step b (.get t) c).2.misses = c.misses
  miss : ∀ t, ¬ Kept b steps t → (step b (.get t) c).2.hits = c.hits ∧
    (step b (.get t) c).2.misses = c.misses + 1
  asked : c.hits + c.misses = steps.countP (·.isGet)
  computed : c.computed = c.misses
  contains : ∀ t, ∃ k, (step b (.contains t) c).1 = .contained k ∧ (k = true ↔ Kept b steps t)
  size : c.size = Set.ncard {t | Kept b steps t}
  clear : (step b .clear c).1 = .released (Set.ncard {t | Kept b steps t}) ∧
    (step b .clear c).2.entries = []
  close : (step b .close c).1 = .released (Set.ncard {t | Kept b steps t}) ∧
    (step b .close c).2.entries = []
  closed_iff : c.closed = true ↔ ∃ i ∈ steps, i.closes b = true
  empty : (∃ i ∈ steps, i.closes b = true) → c.entries = []

variable {b : Breaker} {steps : List Step} {i : Step} {t u : Text} {c : HumpCache} {spans : Spans}

theorem Step.releases_of_closes (h : i.closes b = true) : i.releases b = true := by
  cases i with
  | clear => rfl
  | get t => exact h
  | contains t => exact h
  | close => exact h

theorem not_kept_nil : ¬ Kept b [] t := by
  rintro ⟨earlier, later, heq, _⟩
  simp at heq

theorem kept_append_singleton
    : Kept b (steps ++ [i]) t
        ↔
      (Kept b steps t ∧ i.releases b = false) ∨
        (i = .get t ∧ ∀ j ∈ steps ++ [i], j.closes b = false) := by
  constructor
  . rintro ⟨earlier, later, heq, hopen, hlater⟩
    cases later using List.reverseRecOn with
    | nil =>
      have hsplit := List.append_inj' heq rfl
      right
      rw [heq]
      exact ⟨List.singleton_inj.mp hsplit.2, hopen⟩
    | append_singleton later j =>
      rw [← List.cons_append, ← List.append_assoc] at heq
      have hsplit := List.append_inj' heq rfl
      have hj := List.singleton_inj.mp hsplit.2
      subst hj
      left
      constructor
      . refine ⟨earlier, later, hsplit.1, hopen, ?_⟩
        intro k hk
        apply hlater
        exact List.mem_append_left _ hk
      . apply hlater
        simp
  . rintro (⟨⟨earlier, later, heq, hopen, hlater⟩, hi⟩ | ⟨rfl, hopen⟩)
    . refine ⟨earlier, later ++ [i], ?_, hopen, ?_⟩
      . rw [heq]
        simp
      . intro k hk
        rcases List.mem_append.mp hk with hk | hk
        . exact hlater k hk
        . rw [List.mem_singleton.mp hk]
          exact hi
    . refine ⟨steps, [], rfl, hopen, ?_⟩
      intro k hk
      cases hk

theorem Kept.closes_eq_false (h : Kept b steps t) : ∀ i ∈ steps, i.closes b = false := by
  rcases h with ⟨earlier, later, rfl, hopen, hlater⟩
  intro i hi
  rw [List.append_cons, List.mem_append] at hi
  rcases hi with hi | hi
  . exact hopen i hi
  . have hkeeps := Bool.eq_false_iff.mp (hlater i hi)
    apply Bool.eq_false_iff.mpr
    intro hcloses
    exact hkeeps (Step.releases_of_closes hcloses)

theorem Kept.closesOn_eq_false (h : Kept b steps t) : b.closesOn t = false := by
  rcases h with ⟨earlier, later, _, hopen, _⟩
  apply hopen (.get t)
  simp

theorem not_kept_of_releases (h : i.releases b = true) : ¬ Kept b (steps ++ [i]) t := by
  rw [kept_append_singleton]
  rintro (⟨_, hkeeps⟩ | ⟨rfl, hopen⟩)
  . rw [h] at hkeeps
    cases hkeeps
  . have hcloses : b.closesOn t = false := hopen (.get t) (by simp)
    have hreleases : b.closesOn t = true := h
    rw [hcloses] at hreleases
    cases hreleases

theorem kept_append_singleton_of_keeps (h : i.releases b = false) (hget : ∀ t, i = .get t → Kept b steps t)
    : Kept b (steps ++ [i]) t ↔ Kept b steps t := by
  rw [kept_append_singleton]
  constructor
  . rintro (⟨hkept, _⟩ | ⟨hi, _⟩)
    . exact hkept
    . exact hget t hi
  . intro hkept
    exact .inl ⟨hkept, h⟩

/-! ### What is kept -/

structure Tracks (b : Breaker) (steps : List Step) (c : HumpCache) : Prop where
  mem_iff : ∀ t, t ∈ c.texts ↔ Kept b steps t
  right : ∀ p ∈ c.entries, p.2 = b.humps p.1
  distinct : c.texts.Nodup
  closed_eq : c.closed = steps.any (·.closes b)

theorem tracks_nil (b : Breaker) : Tracks b [] {} := by
  constructor
  . intro t
    simp [texts, not_kept_nil]
  . intro p hp
    cases hp
  . exact List.nodup_nil
  . rfl

theorem Tracks.closed_iff (h : Tracks b steps c) : c.closed = true ↔ ∃ i ∈ steps, i.closes b = true := by
  rw [h.closed_eq, List.any_eq_true]

theorem Tracks.not_all_open (h : Tracks b steps c) (hclosed : c.closed = true)
    : ¬ ∀ i ∈ steps, i.closes b = false := by
  intro hopen
  rcases h.closed_iff.mp hclosed with ⟨i, hi, hcloses⟩
  rw [hopen i hi] at hcloses
  cases hcloses

theorem Tracks.not_kept (h : Tracks b steps c) (hclosed : c.closed = true) : ¬ Kept b steps t := by
  intro hkept
  exact h.not_all_open hclosed hkept.closes_eq_false

theorem Tracks.entries_eq_nil (h : Tracks b steps c) (hclosed : c.closed = true) : c.entries = [] := by
  have htexts : c.texts = [] := by
    apply List.eq_nil_iff_forall_not_mem.mpr
    intro t ht
    exact h.not_kept hclosed ((h.mem_iff t).mp ht)
  exact List.map_eq_nil_iff.mp htexts

theorem Tracks.of_entries_eq {c' : HumpCache} (h : Tracks b steps c) (hentries : c'.entries = c.entries)
    (hclosed : c'.closed = (c.closed || i.closes b))
    (hkept : ∀ t, Kept b (steps ++ [i]) t ↔ Kept b steps t) : Tracks b (steps ++ [i]) c' := by
  have htexts : c'.texts = c.texts := by
    rw [texts, texts, hentries]
  constructor
  . intro t
    rw [htexts, hkept, h.mem_iff]
  . rw [hentries]
    exact h.right
  . rw [htexts]
    exact h.distinct
  . rw [hclosed, h.closed_eq]
    simp

theorem Tracks.of_releases {c' : HumpCache} (h : Tracks b steps c) (hentries : c'.entries = [])
    (hclosed : c'.closed = (c.closed || i.closes b)) (hreleases : i.releases b = true)
    : Tracks b (steps ++ [i]) c' := by
  have htexts : c'.texts = [] := by
    rw [texts, hentries]
    rfl
  constructor
  . intro t
    simp [htexts, not_kept_of_releases hreleases]
  . rw [hentries]
    intro p hp
    cases hp
  . rw [htexts]
    exact List.nodup_nil
  . rw [hclosed, h.closed_eq]
    simp

theorem Tracks.missed_open (h : Tracks b steps c) (hopen : c.closed = false)
    (hcloses : b.closesOn t = false) (hmissing : t ∉ c.texts)
    : Tracks b (steps ++ [.get t]) (c.missed b t) := by
  have hany : (steps ++ [Step.get t]).any (·.closes b) = false := by
    rw [List.any_append, ← h.closed_eq, hopen]
    simp [Step.closes, hcloses]
  constructor
  . intro u
    have hadds : ∀ j ∈ steps ++ [Step.get t], j.closes b = false := by
      intro j hj
      exact Bool.eq_false_iff.mpr (List.any_eq_false.mp hany j hj)
    rw [missed_texts hopen hcloses, List.mem_append, List.mem_singleton, h.mem_iff, kept_append_singleton]
    simp only [Step.releases, Step.closes, hcloses, and_true, Step.get.injEq]
    constructor
    . rintro (hkept | rfl)
      . exact .inl hkept
      . exact .inr ⟨rfl, hadds⟩
    . rintro (hkept | ⟨rfl, _⟩)
      . exact .inl hkept
      . exact .inr rfl
  . exact missed_right h.right
  . exact missed_distinct hopen hcloses h.distinct hmissing
  . rw [hany, missed, hopen, hcloses]
    rfl

theorem Tracks.missed_closed (h : Tracks b steps c) (hclosed : c.closed = true)
    (hcloses : b.closesOn t = false) : Tracks b (steps ++ [.get t]) (c.missed b t) := by
  apply h.of_entries_eq
  . simp [missed, hclosed, hcloses]
  . rfl
  . intro u
    have hnone : ¬ Kept b steps u := h.not_kept hclosed
    rw [kept_append_singleton]
    simp only [hnone, false_and, false_or, iff_false, not_and]
    intro _ hopen
    apply h.not_all_open hclosed
    intro i hi
    exact hopen i (List.mem_append_left _ hi)

theorem Tracks.missed (h : Tracks b steps c) (hmissing : t ∉ c.texts)
    : Tracks b (steps ++ [.get t]) (c.missed b t) := by
  cases hcloses : b.closesOn t with
  | true =>
    apply h.of_releases
    . exact if_pos hcloses
    . rfl
    . exact hcloses
  | false =>
    cases hclosed : c.closed with
    | true => exact h.missed_closed hclosed hcloses
    | false => exact h.missed_open hclosed hcloses hmissing

theorem Tracks.step (h : Tracks b steps c) (i : Step) : Tracks b (steps ++ [i]) (step b i c).2 := by
  cases i with
  | get t =>
    cases hfind : c.find? t with
    | none =>
      have hmissed : (HumpCache.step b (.get t) c).2 = c.missed b t := by
        rw [HumpCache.step, get_of_find?_eq_none hfind]
      rw [hmissed]
      exact h.missed (find?_eq_none_iff.mp hfind)
    | some spans =>
      have hhit : (HumpCache.step b (.get t) c).2 = { c with hits := c.hits + 1 } := by
        rw [HumpCache.step, get_of_find?_eq_some hfind]
      have hkept : Kept b steps t := by
        rw [← h.mem_iff, ← contains_iff, contains, hfind]
        rfl
      rw [hhit]
      apply h.of_entries_eq
      . rfl
      . simp [Step.closes, hkept.closesOn_eq_false]
      . intro u
        apply kept_append_singleton_of_keeps
        . exact hkept.closesOn_eq_false
        . rintro _ ⟨rfl⟩
          exact hkept
  | contains t =>
    apply h.of_entries_eq
    . rfl
    . exact (Bool.or_false _).symm
    . intro u
      apply kept_append_singleton_of_keeps
      . rfl
      . intro _ hi
        cases hi
  | clear =>
    apply h.of_releases
    . rfl
    . exact (Bool.or_false _).symm
    . rfl
  | close =>
    apply h.of_releases
    . rfl
    . exact (Bool.or_true _).symm
    . rfl

theorem after_append_singleton (b : Breaker) (steps : List Step) (i : Step) (c : HumpCache)
    : History.after (step b) (steps ++ [i]) c = (step b i (History.after (step b) steps c)).2 := by
  rw [History.after_append, History.after_cons, History.after_nil]

theorem after_tracks (b : Breaker) (steps : List Step)
    : Tracks b steps (History.after (step b) steps {}) := by
  induction steps using List.reverseRecOn with
  | nil => exact tracks_nil b
  | append_singleton steps i ih =>
    rw [after_append_singleton]
    exact ih.step i

/-! ### What is counted -/

theorem Tracks.get_of_kept (h : Tracks b steps c) (hkept : Kept b steps t)
    : get b t c = (b.humps t, { c with hits := c.hits + 1 }) := by
  rw [← h.mem_iff, ← contains_iff, contains, Option.isSome_iff_exists] at hkept
  rcases hkept with ⟨spans, hfind⟩
  have hright : spans = b.humps t := h.right _ (mem_of_find?_eq_some hfind)
  rw [get_of_find?_eq_some hfind, hright]

theorem Tracks.get_of_not_kept (h : Tracks b steps c) (hnot : ¬ Kept b steps t)
    : get b t c = (b.humps t, c.missed b t) := by
  apply get_of_find?_eq_none
  rw [find?_eq_none_iff, h.mem_iff]
  exact hnot

structure Counts (steps : List Step) (c : HumpCache) : Prop where
  asked : c.hits + c.misses = steps.countP (·.isGet)
  computed : c.computed = c.misses

theorem Counts.step (h : Counts steps c) (b : Breaker) (i : Step)
    : Counts (steps ++ [i]) (step b i c).2 := by
  cases i with
  | get t =>
    have hasked : (steps ++ [Step.get t]).countP (·.isGet) = c.hits + c.misses + 1 := by
      rw [List.countP_append, h.asked]
      rfl
    rw [HumpCache.step]
    cases hfind : c.find? t with
    | none =>
      rw [get_of_find?_eq_none hfind]
      constructor
      . rw [hasked]
        rfl
      . exact congrArg (· + 1) h.computed
    | some spans =>
      rw [get_of_find?_eq_some hfind]
      constructor
      . rw [hasked]
        exact Nat.add_right_comm _ _ _
      . exact h.computed
  | contains | clear | close =>
    constructor
    . rw [List.countP_append]
      exact h.asked
    . exact h.computed

theorem after_counts (b : Breaker) (steps : List Step)
    : Counts steps (History.after (step b) steps {}) := by
  induction steps using List.reverseRecOn with
  | nil => exact ⟨rfl, rfl⟩
  | append_singleton steps i ih =>
    rw [after_append_singleton]
    exact ih.step b i

theorem Tracks.size_eq (h : Tracks b steps c) : c.size = Set.ncard {t | Kept b steps t} := by
  have hset : {t | Kept b steps t} = (c.texts.toFinset : Set Text) := by
    ext t
    simp [h.mem_iff]
  rw [hset, Set.ncard_coe_finset, List.toFinset_card_of_nodup h.distinct, size_eq_length_texts]

theorem after_accounts (b : Breaker) (steps : List Step)
    : Accounts b steps (History.after (step b) steps {}) := by
  have htracks := after_tracks b steps
  have hcounts := after_counts b steps
  generalize History.after (step b) steps {} = c at htracks hcounts
  have hreleased : Answer.released c.size = .released (Set.ncard {t | Kept b steps t}) := by
    rw [htracks.size_eq]
  constructor
  . intro t
    rw [step]
    by_cases hkept : Kept b steps t
    . rw [htracks.get_of_kept hkept]
    . rw [htracks.get_of_not_kept hkept]
  . intro t hkept
    rw [step, htracks.get_of_kept hkept]
    exact ⟨rfl, rfl⟩
  . intro t hnot
    rw [step, htracks.get_of_not_kept hnot]
    exact ⟨rfl, rfl⟩
  . exact hcounts.asked
  . exact hcounts.computed
  . intro t
    refine ⟨c.contains t, rfl, ?_⟩
    rw [contains_iff, htracks.mem_iff]
  . exact htracks.size_eq
  . exact ⟨hreleased, rfl⟩
  . exact ⟨hreleased, rfl⟩
  . exact htracks.closed_iff
  . intro hcloses
    exact htracks.entries_eq_nil (htracks.closed_iff.mpr hcloses)

end IdentSearch.HumpCache
