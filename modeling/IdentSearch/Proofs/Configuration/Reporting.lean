import IdentSearch.Proofs.Configuration.Precedence

/-!
How a wrong configuration is reported. It is said what is wrong with it, unless the file holds a key that is not
even a text: then the unknown keys cannot be listed, and an error of another sort comes of that. Such an error also
comes of a file that cannot even be read as it should.
-/

namespace IdentSearch.Configuration

variable {host : Host} {c : Configuration} {files : Files} {overrides file : Entries}

theorem load_of_isUnknown (hoverrides : overrides.AreNamed)
    (hfile : (c.fileOptions host files).1 = .ok file) {k : Value} (h : IsUnknown file overrides k)
    : (c.load host files overrides).1
        =
      .error (.options (Options.unknownError
        (Options.unknownKeys (combine file c.environment overrides)))) := by
  rw [load_of_fileOptions_ok hfile, Options.ofEntries]
  rw [if_neg]
  . rfl
  . intro hempty
    rw [List.isEmpty_iff] at hempty
    have hk : k ∈ Options.unknownKeys (combine file c.environment overrides) :=
      (mem_unknownKeys_combine hoverrides).mpr h
    rw [hempty] at hk
    cases hk

theorem load_of_unknown_texts (hoverrides : overrides.AreNamed) (hfile : (c.fileOptions host files).1 = .ok file)
    (htexts : ∀ k ∈ file.map (·.1), ∃ t, k = .text t) {k : Value} (h : IsUnknown file overrides k)
    : ∃ names,
        (c.load host files overrides).1 = .error (.options (.unknown names)) ∧ names.Pairwise Text.AtMost ∧
          ∀ t, t ∈ names ↔ IsUnknown file overrides (.text t) := by
  have hkeys : ∀ l ∈ Options.unknownKeys (combine file c.environment overrides), ∃ t, l = .text t := by
    intro l hl
    rcases (mem_unknownKeys_combine hoverrides).mp hl with ⟨_, hfile | ⟨v, hv, _⟩⟩
    . exact htexts l hfile
    . exact hoverrides.texts _ hv
  rcases Options.exists_texts hkeys with ⟨ts, hts⟩
  refine ⟨ts.insertionSort Text.AtMost, ?_, List.pairwise_insertionSort _ ts, ?_⟩
  . rw [load_of_isUnknown hoverrides hfile h, hts, Options.unknownError_texts]
  . intro t
    rw [List.mem_insertionSort, ← mem_unknownKeys_combine hoverrides, hts]
    simp

theorem load_not_reported_iff (hoverrides : overrides.AreNamed)
    : (∃ e, (c.load host files overrides).1 = .error e ∧ e.isReported = false)
        ↔
      c.IsRaising host files ∨
        ∃ file, (c.fileOptions host files).1 = .ok file ∧ ∃ k ∈ file.map (·.1), ∀ t, k ≠ .text t := by
  constructor
  . rintro ⟨e, he, hreported⟩
    cases hfile : (c.fileOptions host files).1 with
    | error e' =>
      rw [load_of_fileOptions_error hfile] at he
      cases he
      exact .inl ((isReported_iff_of_fileOptions hfile).mp hreported)
    | ok file =>
      refine .inr ⟨file, rfl, ?_⟩
      rw [Bool.eq_false_iff, ne_eq, isReported_iff_of_load hoverrides hfile he] at hreported
      push Not at hreported
      exact hreported
  . rintro (hraising | ⟨file, hfile, k, hk, hother⟩)
    . rcases fileOptions_of_isRaising hraising with ⟨e, he⟩
      exact ⟨e, load_of_fileOptions_error he, (isReported_iff_of_fileOptions he).mpr hraising⟩
    . have hunknown : IsUnknown file overrides k := ⟨fun _ => hother _, .inl hk⟩
      have he := load_of_isUnknown hoverrides hfile hunknown
      refine ⟨_, he, ?_⟩
      rw [Bool.eq_false_iff, ne_eq, isReported_iff_of_load hoverrides hfile he]
      push Not
      exact ⟨k, hk, hother⟩

theorem exists_load_not_reported
    : let files : Files := [(['c'], .text "1: true\n".toList)]
      ∃ c file e, create .homeless (some ['c']) [] files = .ok c ∧ (c.fileOptions .homeless files).1 = .ok file ∧
        (c.load .homeless files []).1 = .error e ∧ e.isReported = false := by
  intro files
  have hcreate : create .homeless (some ['c']) [] files = .ok ⟨some ['c'], [], none⟩ := rfl
  have hfile : ((fileOptions .homeless files ⟨some ['c'], [], none⟩).1.map fun _ => ()).mapError (·.isReported)
      = .ok () := by
    decide +kernel
  have hload : (load .homeless files [] ⟨some ['c'], [], none⟩).1.mapError (·.isReported) = .error false := by
    decide +kernel
  rcases Except.map_eq_ok.mp (Except.mapError_eq_ok.mp hfile) with ⟨file, hfile, _⟩
  rcases Except.mapError_eq_error.mp hload with ⟨e, he, hreported⟩
  exact ⟨_, file, e, hcreate, hfile, he, hreported⟩

end IdentSearch.Configuration
