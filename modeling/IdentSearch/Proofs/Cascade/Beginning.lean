import IdentSearch.Proofs.Cascade.Truthful

/-!
Which rule a match comes from. The two strongest kinds come from the rule about the beginning of a candidate
and from no other, so they tell exactly how the candidate begins.
-/

namespace IdentSearch

theorem Kind.rank_lt_beginning {k : Kind} (h : k = .substring ∨ k.isCamel = true)
    : k.rank < Kind.beginning.rank := by
  rcases h with rfl | hcamel
  . decide
  . unfold isCamel at hcamel
    rw [Bool.and_eq_true, decide_eq_true_eq, decide_eq_true_eq] at hcamel
    show k.rank < 8
    omega

namespace Attempt

variable {a : Attempt} {r : Match} {kinds : Kind → Prop} {caseSensitive : Bool}

/-! ### What the rules make -/

structure Makes (a : Attempt) (kinds : Kind → Prop) (r : Match) : Prop where
  kind : kinds r.kind
  stripped : r.punctuationStripped = a.stripped

theorem found_makes (kind : Kind) (caseSensitive : Bool) (spans : Spans)
    : a.Makes (· = kind) (a.found kind caseSensitive spans) :=
  ⟨rfl, rfl⟩

theorem substringAt_makes (position : Nat) : a.Makes (· = .substring) (a.substringAt position) := by
  apply found_makes

theorem makes_of_map {α : Type} {o : Option α} {answer : α → Match}
    (hanswer : ∀ x, a.Makes kinds (answer x)) (h : o.map answer = some r) : a.Makes kinds r := by
  rcases Option.map_eq_some_iff.mp h with ⟨x, _, rfl⟩
  exact hanswer x

theorem atBeginning_makes (h : a.atBeginning = some r)
    : a.Makes (fun k => k = .exact ∨ k = .beginning) r := by
  unfold atBeginning at h
  split at h
  . split at h
    . cases h
      exact ⟨.inl rfl, rfl⟩
    . cases h
      exact ⟨.inr rfl, rfl⟩
  . cases h

theorem anywhere_makes (h : a.anywhere = some r) : a.Makes (· = .substring) r := by
  unfold anywhere at h
  split at h
  . exact makes_of_map substringAt_makes h
  . cases h

theorem innerMatch_makes (h : a.innerMatch = some r) : a.Makes (· = .substring) r := by
  unfold innerMatch at h
  split at h
  . rcases Option.bind_eq_some_iff.mp h with ⟨position, _, hrules⟩
    rcases Option.or_eq_some_iff.mp hrules with hrule | ⟨_, hrule⟩
    . unfold atPunctuation at hrule
      split at hrule
      . cases hrule
        exact substringAt_makes position
      . cases hrule
    . exact makes_of_map (fun _ => found_makes .substring _ _) hrule
  . unfold literally at h
    split at h
    . cases h
      apply found_makes
    . cases h

theorem aligned_makes (caseSensitive : Bool) (alignment : Alignment)
    : a.Makes (·.isCamel = true) (a.aligned caseSensitive alignment) :=
  ⟨isCamel_alignment alignment, rfl⟩

theorem onHumps_makes {humps : Spans} (h : a.onHumps humps = some r) : a.Makes (·.isCamel = true) r := by
  unfold onHumps at h
  dsimp only at h
  split at h
  . exact makes_of_map (aligned_makes false) h
  . split at h
    . cases h
      exact aligned_makes true _
    . exact makes_of_map (aligned_makes false) h

theorem onCapital_makes (h : a.onCapital = some r) : a.Makes (· = .substring) r := by
  unfold onCapital at h
  split at h
  . split at h
    . cases h
      apply found_makes
    . cases h
  . cases h

theorem outcome_cases (h : a.outcome = some r)
    : a.atBeginning = some r ∨ a.Makes (fun k => k = .substring ∨ k.isCamel = true) r := by
  rcases Option.or_eq_some_iff.mp h with hrule | ⟨_, h⟩
  . exact .inl hrule
  rcases Option.or_eq_some_iff.mp h with hrule | ⟨_, h⟩
  . have hmakes := anywhere_makes hrule
    exact .inr ⟨.inl hmakes.kind, hmakes.stripped⟩
  rcases Option.or_eq_some_iff.mp h with hrule | ⟨_, h⟩
  . have hmakes := innerMatch_makes hrule
    exact .inr ⟨.inl hmakes.kind, hmakes.stripped⟩
  rcases Option.or_eq_some_iff.mp h with hrule | ⟨_, hrule⟩
  . have hmakes := onHumps_makes hrule
    exact .inr ⟨.inr hmakes.kind, hmakes.stripped⟩
  . have hmakes := onCapital_makes hrule
    exact .inr ⟨.inl hmakes.kind, hmakes.stripped⟩

theorem outcome_stripped (h : a.outcome = some r) : r.punctuationStripped = a.stripped := by
  rcases outcome_cases h with hrule | hmakes
  . exact (atBeginning_makes hrule).stripped
  . exact hmakes.stripped

/-! ### How the candidate begins -/

theorem index_eq_zero_iff
    : a.index true = some 0
        ↔
      a.settings.folding.fold a.chunk.text <+: a.settings.folding.fold a.candidate :=
  Text.find?_eq_zero_iff

theorem outcome_of_fold_eq (h : a.settings.folding.fold a.candidate = a.settings.folding.fold a.chunk.text)
    : a.outcome
        =
      some (a.found .exact (a.candidate == a.chunk.text) [⟨a.offset, a.candidate.length⟩]) := by
  have hindex : a.index true = some 0 := by
    apply index_eq_zero_iff.mpr
    exact ⟨[], (List.append_nil _).trans h.symm⟩
  have hlength : a.chunk.text.length = a.candidate.length := by
    rw [← a.settings.folding.length_view true a.chunk.text, Folding.view_true, ← h, ← Folding.view_true,
      Folding.length_view]
  rw [outcome, atBeginning, if_pos hindex, if_pos hlength]
  rfl

theorem outcome_of_begins
    (hbegins : a.settings.folding.fold a.chunk.text <+: a.settings.folding.fold a.candidate)
    (hproper : a.settings.folding.fold a.chunk.text ≠ a.settings.folding.fold a.candidate)
    : a.outcome
        =
      some (a.found .beginning (a.settings.folding.startsWith false a.candidate a.chunk.text)
        [⟨a.offset, a.chunk.text.length⟩]) := by
  have hlength : a.chunk.text.length ≠ a.candidate.length := by
    intro hlength
    apply hproper
    apply hbegins.eq_of_length
    rw [← Folding.view_true, ← Folding.view_true, Folding.length_view, Folding.length_view, hlength]
  rw [outcome, atBeginning, if_pos (index_eq_zero_iff.mpr hbegins), if_neg hlength]
  rfl

theorem prefix_of_outcome (h : a.outcome = some r) (hkind : Kind.beginning.rank ≤ r.kind.rank)
    : a.settings.folding.fold a.chunk.text <+: a.settings.folding.fold a.candidate := by
  rcases outcome_cases h with hrule | hmakes
  . unfold atBeginning at hrule
    split at hrule
    . next hindex => exact index_eq_zero_iff.mp hindex
    . cases hrule
  . exact absurd hkind (Nat.not_le_of_lt (Kind.rank_lt_beginning hmakes.kind))

theorem outcome_exact_iff
    : (∃ spans, a.outcome = some ⟨.exact, a.stripped, caseSensitive, spans⟩)
        ↔
      a.settings.folding.fold a.candidate = a.settings.folding.fold a.chunk.text ∧
        (caseSensitive = true ↔ a.candidate = a.chunk.text) := by
  constructor
  . rintro ⟨spans, h⟩
    have hbegins := prefix_of_outcome h (Nat.le_succ _)
    rcases Decidable.em (a.settings.folding.fold a.chunk.text = a.settings.folding.fold a.candidate)
      with heq | hproper
    . rw [outcome_of_fold_eq heq.symm] at h
      cases h
      exact ⟨heq.symm, beq_iff_eq⟩
    . rw [outcome_of_begins hbegins hproper] at h
      cases h
  . rintro ⟨heq, hcase⟩
    have hflag : (a.candidate == a.chunk.text) = caseSensitive := by
      rw [Bool.eq_iff_iff, beq_iff_eq]
      exact hcase.symm
    rw [outcome_of_fold_eq heq, hflag]
    exact ⟨_, rfl⟩

theorem outcome_beginning_iff
    : (∃ spans, a.outcome = some ⟨.beginning, a.stripped, caseSensitive, spans⟩)
        ↔
      (a.settings.folding.fold a.chunk.text <+: a.settings.folding.fold a.candidate ∧
        a.settings.folding.fold a.chunk.text ≠ a.settings.folding.fold a.candidate) ∧
        (caseSensitive = true ↔ a.chunk.text <+: a.candidate) := by
  constructor
  . rintro ⟨spans, h⟩
    have hbegins := prefix_of_outcome h (Nat.le_refl _)
    have hproper : a.settings.folding.fold a.chunk.text ≠ a.settings.folding.fold a.candidate := by
      intro heq
      rw [outcome_of_fold_eq heq.symm] at h
      cases h
    rw [outcome_of_begins hbegins hproper] at h
    cases h
    exact ⟨⟨hbegins, hproper⟩, Folding.startsWith_iff⟩
  . rintro ⟨⟨hbegins, hproper⟩, hcase⟩
    have hflag : a.settings.folding.startsWith false a.candidate a.chunk.text = caseSensitive := by
      rw [Bool.eq_iff_iff, Folding.startsWith_iff]
      exact hcase.symm
    rw [outcome_of_begins hbegins hproper, hflag]
    exact ⟨_, rfl⟩

end Attempt
end IdentSearch
