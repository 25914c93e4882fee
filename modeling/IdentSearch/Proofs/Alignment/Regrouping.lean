import Mathlib.Data.List.Chain
import Mathlib.Data.List.Range
import IdentSearch.Proofs.Alignment.Greedy
import IdentSearch.Proofs.Alignment.Spread.Optimality

/-!
A chunk that lies on a candidate by its capitals can also be spread over the candidate without regard to
them: the pattern humps that one candidate hump takes are one beginning of it. So the search finds
something as well, and nothing weaker.
-/

namespace IdentSearch

theorem Chunk.ne_nil_of_mem_humpTexts {c : Chunk} {t : Text} (ht : t ∈ c.humpTexts) : t ≠ [] := by
  rcases List.mem_map.mp ht with ⟨s, hs, rfl⟩
  exact (Breaking.humps_tiles .characters c.text).textOf_ne_nil hs

theorem Folding.fold_prefix_of_view_prefix {f : Folding} {ignoreCase : Bool} {t u : Text}
    (h : f.view ignoreCase t <+: f.view ignoreCase u) : f.fold t <+: f.fold u := by
  cases ignoreCase with
  | true => exact h
  | false =>
    rw [f.fold_eq_map, f.fold_eq_map]
    exact h.map f.foldChar

theorem Alignment.exists_of_mapM_move {distance : Int} {o : Option Alignment} {a : Alignment}
    (h : o.mapM (·.move distance) = .ok (some a)) : ∃ b, o = some b ∧ a.kind = b.kind := by
  rcases mapM_move_eq_some h with ⟨b, hsome, hmove⟩
  exact ⟨b, hsome, kind_of_move_eq_ok hmove⟩

namespace Spread

variable {f : Folding} {texts : List Text} {placements : List Placement} {i : Nat}

def sharesFrom (i : Nat) : List Placement → List Share
  | [] => []
  | p :: ps =>
    if p.isEmpty then sharesFrom (i + 1) ps
    else ⟨i, p.taken.flatten.length⟩ :: sharesFrom (i + 1) ps

theorem sharesFrom_cons_of_isEmpty {p : Placement} {ps : List Placement} (h : p.isEmpty = true)
    : sharesFrom i (p :: ps) = sharesFrom (i + 1) ps := by
  rw [sharesFrom, if_pos h]

theorem sharesFrom_cons_of_not_isEmpty {p : Placement} {ps : List Placement} (h : p.isEmpty = false)
    : sharesFrom i (p :: ps) = ⟨i, p.taken.flatten.length⟩ :: sharesFrom (i + 1) ps := by
  rw [sharesFrom, h]
  rfl

theorem le_of_mem_sharesFrom {s : Share} (hs : s ∈ sharesFrom i placements) : i ≤ s.hump := by
  induction placements generalizing i with
  | nil => cases hs
  | cons p ps ih =>
    cases hempty : p.isEmpty with
    | true =>
      rw [sharesFrom_cons_of_isEmpty hempty] at hs
      have := ih hs
      omega
    | false =>
      rw [sharesFrom_cons_of_not_isEmpty hempty] at hs
      rcases List.mem_cons.mp hs with rfl | hs
      . exact Nat.le_refl i
      . have := ih hs
        omega

theorem sharesFrom_eq_nil (h : sharesFrom i placements = []) : (placements.map (·.taken)).flatten = [] := by
  induction placements generalizing i with
  | nil => rfl
  | cons p ps ih =>
    cases hempty : p.isEmpty with
    | true =>
      rw [sharesFrom_cons_of_isEmpty hempty] at h
      rw [List.map_cons, List.flatten_cons, ih h, List.isEmpty_iff.mp hempty, List.append_nil]
    | false =>
      rw [sharesFrom_cons_of_not_isEmpty hempty] at h
      cases h

/-! ### What the shares spell -/

theorem Begins.of_placement {p : Placement} {rest : Text} (htext : texts[i]? = some (f.fold p.hump.text))
    (hbegins : f.fold p.taken.flatten <+: f.fold p.hump.text) (htaken : ∀ t ∈ p.taken, t ≠ [])
    (hempty : p.isEmpty = false)
    : Begins texts (f.fold p.taken.flatten ++ rest) ⟨i, p.taken.flatten.length⟩ rest := by
  have hlen : (f.fold p.taken.flatten).length = p.taken.flatten.length := f.length_view true _
  have hpos : 1 ≤ p.taken.flatten.length := by
    rcases hp : p.taken with _ | ⟨t, ts⟩
    . simp [Placement.isEmpty, hp] at hempty
    . have := List.length_pos_iff.mpr (htaken t (by simp [hp]))
      rw [List.flatten_cons, List.length_append]
      omega
  refine ⟨f.fold p.hump.text, htext, hpos, ?_, ?_⟩
  . rw [← hlen]
    exact hbegins.length_le
  . rw [← hlen, ← List.prefix_iff_eq_take.mp hbegins]

-- The induction is on the placements. `texts.drop i` are the humps that are left of the candidate.
theorem spells_sharesFrom
    (hhumps : placements.map (fun p => f.fold p.hump.text) <+: texts.drop i)
    (hbegins : ∀ p ∈ placements, f.fold p.taken.flatten <+: f.fold p.hump.text)
    (htaken : ∀ p ∈ placements, ∀ t ∈ p.taken, t ≠ [])
    (hne : sharesFrom i placements ≠ [])
    : Spells texts (f.fold (placements.map (·.taken)).flatten.flatten) (sharesFrom i placements) := by
  induction placements generalizing i with
  | nil => exact absurd rfl hne
  | cons p ps ih =>
    rcases hhumps with ⟨others, hothers⟩
    rw [List.map_cons, List.cons_append] at hothers
    have htext : texts[i]? = some (f.fold p.hump.text) := by
      rw [← List.head?_drop, ← hothers, List.head?_cons]
    have htail : ps.map (fun p => f.fold p.hump.text) <+: texts.drop (i + 1) := by
      rw [← List.tail_drop, ← hothers]
      exact List.prefix_append _ _
    have hbegins' := fun q hq => hbegins q (List.mem_cons_of_mem p hq)
    have htaken' := fun q hq => htaken q (List.mem_cons_of_mem p hq)
    rw [List.map_cons, List.flatten_cons]
    cases hempty : p.isEmpty with
    | true =>
      rw [sharesFrom_cons_of_isEmpty hempty] at hne ⊢
      rw [List.isEmpty_iff.mp hempty, List.nil_append]
      exact ih htail hbegins' htaken' hne
    | false =>
      rw [sharesFrom_cons_of_not_isEmpty hempty, List.flatten_append, ← Folding.view_true,
        Folding.view_append, Folding.view_true, Folding.view_true]
      have hbegin : ∀ rest, Begins texts (f.fold p.taken.flatten ++ rest)
          ⟨i, p.taken.flatten.length⟩ rest := by
        intro rest
        apply Begins.of_placement htext
        . exact hbegins p List.mem_cons_self
        . exact htaken p List.mem_cons_self
        . exact hempty
      cases hshares : sharesFrom (i + 1) ps with
      | nil =>
        have hrest : f.fold (ps.map (·.taken)).flatten.flatten = [] := by
          rw [sharesFrom_eq_nil hshares, f.fold_eq_map]
          rfl
        rw [hrest]
        exact spells_singleton.mpr (hbegin [])
      | cons u us =>
        have hlt : i < u.hump := le_of_mem_sharesFrom (hshares ▸ List.mem_cons_self)
        have hspells := ih htail hbegins' htaken' (by rw [hshares]; exact List.cons_ne_nil u us)
        rw [hshares] at hspells
        exact spells_cons_cons.mpr ⟨_, hbegin _, hlt, hspells⟩

/-! ### The shape of the shares -/

theorem fromStart_sharesFrom
    : fromStart (sharesFrom 0 placements) = placements.head?.any fun p => !p.isEmpty := by
  cases placements with
  | nil => rfl
  | cons p ps =>
    cases hempty : p.isEmpty with
    | false => simp [sharesFrom_cons_of_not_isEmpty hempty, fromStart, hempty]
    | true =>
      rw [sharesFrom_cons_of_isEmpty hempty]
      cases hshares : sharesFrom 1 ps with
      | nil => simp [fromStart, hempty]
      | cons s ss =>
        have : 1 ≤ s.hump := le_of_mem_sharesFrom (hshares ▸ List.mem_cons_self)
        simp only [fromStart, List.head?_cons, Option.any_some, beq_eq_false_iff_ne, hempty,
          Bool.not_true]
        omega

theorem map_hump_sharesFrom_of_all (h : ∀ p ∈ placements, p.isEmpty = false)
    : (sharesFrom i placements).map (·.hump) = List.range' i placements.length := by
  induction placements generalizing i with
  | nil => rfl
  | cons p ps ih =>
    rw [sharesFrom_cons_of_not_isEmpty (h p List.mem_cons_self), List.map_cons, List.length_cons,
      List.range'_succ, ih fun q hq => h q (List.mem_cons_of_mem p hq)]

theorem map_hump_sharesFrom (h : (placements.dropWhile (·.isEmpty)).all fun p => !p.isEmpty)
    : ∃ k, k ≤ placements.length ∧
        (sharesFrom i placements).map (·.hump) = List.range' (i + k) (placements.length - k) := by
  induction placements generalizing i with
  | nil => exact ⟨0, Nat.le_refl 0, rfl⟩
  | cons p ps ih =>
    cases hempty : p.isEmpty with
    | true =>
      rw [List.dropWhile_cons_of_pos hempty] at h
      rcases ih h with ⟨k, hk, hhumps⟩
      refine ⟨k + 1, Nat.succ_le_succ hk, ?_⟩
      rw [sharesFrom_cons_of_isEmpty hempty, hhumps, List.length_cons, Nat.add_sub_add_right,
        Nat.add_right_comm, Nat.add_assoc]
    | false =>
      rw [List.dropWhile_cons_of_neg (by simp [hempty])] at h
      refine ⟨0, Nat.zero_le _, ?_⟩
      apply map_hump_sharesFrom_of_all
      simpa using h

theorem contiguous_of_map_hump {shares : List Share} {start length : Nat}
    (h : shares.map (·.hump) = List.range' start length) : contiguous shares = true := by
  have hchain : (shares.map (·.hump)).IsChain fun j k => k = j + 1 := by
    rw [h]
    exact List.isChain_range' start length 1
  rw [List.isChain_map] at hchain
  simpa [contiguous] using hchain

theorem toEnd_of_map_hump {shares : List Share} {start length : Nat} (hne : shares ≠ [])
    (h : shares.map (·.hump) = List.range' start length) : toEnd (start + length) shares = true := by
  have hlast := congrArg List.getLast? h
  have hlength : length ≠ 0 := by
    rintro rfl
    exact hne (List.map_eq_nil_iff.mp h)
  rw [List.getLast?_map, List.getLast?_range', if_neg hlength] at hlast
  rcases Option.map_eq_some_iff.mp hlast with ⟨s, hs, hhump⟩
  rw [toEnd, hs, Option.any_some, beq_iff_eq]
  omega

theorem rank_summarize_le (humpCount : Nat) (hne : sharesFrom 0 placements ≠ [])
    : (Greedy.summarize humpCount placements).kind.rank
        ≤
      (kindOf humpCount (sharesFrom 0 placements)).rank := by
  unfold Alignment.kind kindOf Greedy.summarize
  rw [fromStart_sharesFrom]
  apply rank_ofShape_le
  . intro hcontiguous
    rcases map_hump_sharesFrom hcontiguous with ⟨k, _, hhumps⟩
    exact contiguous_of_map_hump hhumps
  . intro hcontiguous htoEnd
    rcases map_hump_sharesFrom hcontiguous with ⟨k, hk, hhumps⟩
    have hcount := toEnd_of_map_hump hne hhumps
    have hlen := beq_iff_eq.mp htoEnd
    rw [show 0 + k + (placements.length - k) = humpCount by omega] at hcount
    exact hcount

/-! ### The two alignments of a chunk -/

variable {ignoreCase : Bool} {candidate : Text} {humps : Spans} {chunk : Chunk}

theorem spells_of_placed (hword : ∀ c ∈ chunk.text, Text.isWordChar c = true)
    (h : Greedy.Placed f ignoreCase (humps.map (Hump.ofSpan candidate)) chunk.humpTexts placements)
    (hne : sharesFrom 0 placements ≠ [])
    : Spells (humps.map fun s => f.fold (s.textOf candidate)) (f.fold chunk.text)
        (sharesFrom 0 placements) := by
  have htext : (placements.map (·.taken)).flatten.flatten = chunk.text := by
    rw [h.takesAll, chunk.flatten_humpTexts]
    exact List.filter_eq_self.mpr hword
  rw [← htext]
  apply spells_sharesFrom _ _ _ hne
  . have hfirst := h.onFirst.map fun hump => f.fold hump.text
    rw [List.map_map, List.map_map] at hfirst
    exact hfirst
  . intro p hp
    exact Folding.fold_prefix_of_view_prefix (h.begins p hp)
  . intro p hp t ht
    have hmem : t ∈ (placements.map (·.taken)).flatten :=
      List.mem_flatten_of_mem (List.mem_map_of_mem hp) ht
    rw [h.takesAll] at hmem
    exact Chunk.ne_nil_of_mem_humpTexts hmem

theorem exists_spells_of_align {a : Alignment} (hword : ∀ c ∈ chunk.text, Text.isWordChar c = true)
    (h : Greedy.align f ignoreCase candidate humps chunk = some a)
    : ∃ shares,
        Spells (humps.map fun s => f.fold (s.textOf candidate)) (f.fold chunk.text) shares ∧
          a.kind.rank ≤ (kindOf humps.length shares).rank := by
  have hfilter := Greedy.filter_ne_nil h
  unfold Greedy.align at h
  split at h
  . cases h
  . rcases Option.map_eq_some_iff.mp h with ⟨placements, hplace, rfl⟩
    have hplaced := Greedy.place_placed hplace
    have hne : sharesFrom 0 placements ≠ [] := by
      intro hnil
      have htaken := hplaced.takesAll
      rw [sharesFrom_eq_nil hnil] at htaken
      rw [← chunk.flatten_humpTexts, ← htaken] at hfilter
      exact hfilter rfl
    exact ⟨_, spells_of_placed hword hplaced hne, rank_summarize_le humps.length hne⟩

-- Typing in small letters is never worse. Wherever the candidate starts in a text, both alignments stay inside that
-- text; only by a distance below zero the spread one can be moved out of it.
theorem align_of_greedy {offset : Int} {a : Alignment}
    (h : (Greedy.align f ignoreCase candidate humps chunk).mapM (·.move offset) = .ok (some a))
    (hword : ∀ c ∈ chunk.text, Text.isWordChar c = true)
    : match (align f candidate humps chunk).mapM (·.move offset) with
      | .ok (some b) => a.kind.rank ≤ b.kind.rank
      | .ok none => False
      | .error _ => offset < 0 := by
  rcases Alignment.exists_of_mapM_move h with ⟨g, hgreedy, hkind⟩
  rcases exists_spells_of_align hword hgreedy with ⟨shares, hspells, hle⟩
  rw [← Slot.textsOf_ofHumps] at hspells
  rcases align_spec f candidate humps chunk with ⟨_, hnot⟩ | ⟨s, found, hsome, hfound⟩
  . exact absurd hspells (hnot shares)
  . have hstrongest := hfound.strongest shares hspells
    rw [← length_textsOf, Slot.textsOf_ofHumps, List.length_map] at hstrongest
    rw [hsome, Option.mapM_some]
    cases hmove : Alignment.move offset ⟨s.hump == 0, s.contiguous, s.toEnd, spansOf found⟩ with
    | error e => exact Alignment.move_eq_error hmove
    | ok b =>
      show a.kind.rank ≤ b.kind.rank
      rw [Alignment.kind_of_move_eq_ok hmove, hkind]
      exact Nat.le_trans hle hstrongest

theorem align_of_greedy_cF
    : (Greedy.align .plain true ['C', 'o', 'd', 'F', 'i', 'x']
          (wordHumps ['C', 'o', 'd', 'F', 'i', 'x']) ⟨['C', 'F']⟩).mapM (·.move 5)
            = .ok (some ⟨true, true, true, [⟨5, 1⟩, ⟨8, 1⟩]⟩) ∧
        (∀ c ∈ ['C', 'F'], Text.isWordChar c = true) ∧
          match (align .plain ['C', 'o', 'd', 'F', 'i', 'x']
              (wordHumps ['C', 'o', 'd', 'F', 'i', 'x']) ⟨['C', 'F']⟩).mapM (·.move 5) with
          | .ok (some b) => 7 ≤ b.kind.rank
          | .ok none => False
          | .error _ => (5 : Int) < 0 := by
  have hgreedy : (Greedy.align .plain true ['C', 'o', 'd', 'F', 'i', 'x']
      (wordHumps ['C', 'o', 'd', 'F', 'i', 'x']) ⟨['C', 'F']⟩).mapM (·.move 5)
        = .ok (some ⟨true, true, true, [⟨5, 1⟩, ⟨8, 1⟩]⟩) := by
    rfl
  have hword : ∀ c ∈ ['C', 'F'], Text.isWordChar c = true := List.all_eq_true.mp rfl
  exact ⟨hgreedy, hword, align_of_greedy hgreedy hword⟩

end Spread
end IdentSearch
