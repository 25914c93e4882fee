import IdentSearch.Configuration
import IdentSearch.Proofs.Options.Reading

/-!
Which source an option is taken from. The strongest source that says something about it decides alone, so that
nothing which the others say about it matters, not even if it makes no sense.
-/

namespace IdentSearch

def Value.isGiven : Value → Bool
  | .null => false
  | _ => true

theorem Value.isGiven_iff {v : Value} : v.isGiven = true ↔ v ≠ .null := by
  cases v <;> simp [isGiven]

-- The reader of the program, where nobody has a home.
def Host.homeless : Host := ⟨Yaml.load, fun _ => none⟩

namespace Configuration

/--
The value of an option: that of the caller, unless it is none, or else a variable that is set and not empty, or
else the value in the file.
-/
def supplied? (file : Entries) (env : Environment) (overrides : Entries) (n : OptionName) : Option Value :=
  ((overrides.getName? n.name).filter (·.isGiven)).or
    (((env.nonempty? (variableFor n)).map .text).or (file.getName? n.name))

def IsUnknown (file overrides : Entries) (k : Value) : Prop :=
  (∀ n : OptionName, k ≠ .ofString n.name) ∧ (k ∈ file.map (·.1) ∨ ∃ v, (k, v) ∈ overrides ∧ v ≠ .null)

-- The file is there, but the reader ends in an error that is not about the form of a text.
def Raises (host : Host) (path : Text) (files : Files) : Prop :=
  ∃ content kind message, files.entry path = .file content ∧
    host.loadYaml path content = .error (.raised kind message)

def IsRaising (host : Host) (files : Files) (c : Configuration) : Prop :=
  c.snapshot = none ∧ ∃ path, c.path = some path ∧ Raises host path files

/-! ### The sources put together -/

section
variable {file : Entries} {env : Environment} {overrides : Entries}

theorem environmentOptions_eq_listed (env : Environment)
    : environmentOptions env = OptionName.listed fun n => (env.nonempty? (variableFor n)).map .text := by
  unfold environmentOptions OptionName.listed
  simp only [Option.map_map]
  rfl

theorem givenOverrides_eq (overrides : Entries)
    : givenOverrides overrides = overrides.filter fun e => e.2.isGiven :=
  rfl

theorem givenOverrides_areNamed (h : overrides.AreNamed) : (givenOverrides overrides).AreNamed := by
  rw [givenOverrides_eq]
  exact h.filter _

theorem getName?_combine (h : overrides.AreNamed) (n : OptionName)
    : (combine file env overrides).getName? n.name = supplied? file env overrides n := by
  have hgiven := givenOverrides_areNamed h
  have henv := OptionName.listed_areNamed fun n => (env.nonempty? (variableFor n)).map .text
  have hlisted := OptionName.getName?_listed (fun n => (env.nonempty? (variableFor n)).map .text) n
  unfold supplied?
  rw [← hlisted]
  unfold combine Entries.getName? Value.ofString
  rw [environmentOptions_eq_listed, Entries.get?_update hgiven, Entries.get?_update henv, givenOverrides_eq,
    Entries.get?_filter h]

theorem keys_combine_congr {file' : Entries} {env' : Environment} (hkeys : file'.map (·.1) = file.map (·.1))
    (henv : ∀ n, (env'.nonempty? (variableFor n)).isSome = (env.nonempty? (variableFor n)).isSome)
    : (combine file' env' overrides).map (·.1) = (combine file env overrides).map (·.1) := by
  have hoptions : (environmentOptions env').map (·.1) = (environmentOptions env).map (·.1) := by
    unfold environmentOptions
    rw [List.map_filterMap, List.map_filterMap]
    congr 1
    funext n
    have hn := henv n
    cases hnew : env'.nonempty? (variableFor n) with
    | none =>
      rw [hnew, eq_comm, Option.isSome_none, Option.isSome_eq_false_iff, Option.isNone_iff_eq_none] at hn
      rw [hn]
    | some t =>
      rw [hnew, eq_comm, Option.isSome_some, Option.isSome_iff_exists] at hn
      rcases hn with ⟨u, hu⟩
      rw [hu]
      rfl
  exact Entries.keys_update_congr (Entries.keys_update_congr hkeys hoptions) rfl

theorem mem_unknownKeys_combine (h : overrides.AreNamed) {k : Value}
    : k ∈ Options.unknownKeys (combine file env overrides) ↔ IsUnknown file overrides k := by
  unfold combine IsUnknown
  rw [Options.mem_unknownKeys_update (givenOverrides_areNamed h), environmentOptions_eq_listed]
  rw [Options.unknownKeys_update_listed, Options.mem_unknownKeys, Options.mem_unknownKeys, ← or_and_right, and_comm]
  simp [givenOverrides_eq, Value.isGiven_iff]

end

/-! ### Loading -/

variable {host : Host} {c : Configuration} {files : Files} {overrides : Entries} {path : Text} {e : Error}

theorem environment_fileOptions : (c.fileOptions host files).2.environment = c.environment := by
  unfold fileOptions
  split
  . rfl
  . split
    . rfl
    . split
      . rfl
      . rfl

theorem load_of_fileOptions_error (h : (c.fileOptions host files).1 = .error e)
    : (c.load host files overrides).1 = .error e := by
  unfold load
  dsimp only
  rw [h]

theorem load_of_fileOptions_ok {file : Entries} (h : (c.fileOptions host files).1 = .ok file)
    : (c.load host files overrides).1
        =
      (Options.ofEntries (combine file c.environment overrides)).mapError .options := by
  unfold load
  dsimp only
  rw [h, environment_fileOptions]

theorem isReported_of_section? {document : Value} (h : section? path document = .error e)
    : e.isReported = true := by
  unfold section? at h
  split at h
  . split at h
    . cases h
    . cases h
    . cases h
    . cases h
      rfl
  . cases h
    rfl

theorem not_isReported_of_raises (h : Raises host path files)
    : ∃ e, readFile host path files = .error e ∧ e.isReported = false := by
  rcases h with ⟨content, kind, message, hentry, hload⟩
  refine ⟨.raised kind message, ?_, rfl⟩
  rw [readFile, hentry]
  dsimp only
  rw [readContent, hload]

theorem isReported_iff_of_readFile (h : readFile host path files = .error e)
    : e.isReported = false ↔ Raises host path files := by
  constructor
  . intro hreported
    unfold readFile at h
    cases hentry : files.entry path with
    | missing | directory =>
      rw [hentry] at h
      cases h
      cases hreported
    | file content =>
      rw [hentry] at h
      dsimp only at h
      unfold readContent at h
      cases hload : host.loadYaml path content with
      | ok document =>
        rw [hload] at h
        rw [isReported_of_section? h] at hreported
        cases hreported
      | error failure =>
        rw [hload] at h
        cases failure with
        | malformed message =>
          cases h
          cases hreported
        | raised kind message => exact ⟨content, kind, message, hentry, hload⟩
  . intro hraises
    rcases not_isReported_of_raises hraises with ⟨d, hread, hreported⟩
    rw [h] at hread
    cases hread
    exact hreported

theorem isReported_iff_of_fileOptions (h : (c.fileOptions host files).1 = .error e)
    : e.isReported = false ↔ c.IsRaising host files := by
  unfold fileOptions at h
  unfold IsRaising
  cases hsnapshot : c.snapshot with
  | some entries =>
    rw [hsnapshot] at h
    cases h
  | none =>
    cases hpath : c.path with
    | none =>
      rw [hsnapshot, hpath] at h
      cases h
    | some path =>
      rw [hsnapshot, hpath] at h
      dsimp only at h
      cases hread : readFile host path files with
      | ok entries =>
        rw [hread] at h
        cases h
      | error e' =>
        rw [hread] at h
        cases h
        simp only [isReported_iff_of_readFile hread, Option.some.injEq, exists_eq_left', true_and]

theorem fileOptions_of_isRaising (h : c.IsRaising host files) : ∃ e, (c.fileOptions host files).1 = .error e := by
  rcases h with ⟨hsnapshot, path, hpath, hraises⟩
  rcases not_isReported_of_raises hraises with ⟨e, hread, _⟩
  refine ⟨e, ?_⟩
  unfold fileOptions
  rw [hsnapshot, hpath]
  dsimp only
  rw [hread]

theorem isReported_iff_of_load (hoverrides : overrides.AreNamed) {file : Entries}
    (hfile : (c.fileOptions host files).1 = .ok file) (h : (c.load host files overrides).1 = .error e)
    : e.isReported = true ↔ ∀ k ∈ file.map (·.1), ∃ t, k = .text t := by
  rw [load_of_fileOptions_ok hfile, Except.mapError_eq_error] at h
  rcases h with ⟨e, he, rfl⟩
  have hlists := Options.preventsListing_iff_of_ofEntries he
  simp only [mem_unknownKeys_combine hoverrides] at hlists
  constructor
  . intro hreported k hk
    by_contra hother
    push Not at hother
    have hprevents : e.preventsListing = true := by
      apply hlists.mpr
      exact ⟨k, ⟨fun _ => hother _, .inl hk⟩, hother⟩
    rw [Error.isReported, hprevents] at hreported
    cases hreported
  . intro htexts
    rw [Error.isReported, Bool.not_eq_true', Bool.eq_false_iff, ne_eq, hlists]
    rintro ⟨k, ⟨_, hk⟩, hother⟩
    rcases hk with hk | ⟨v, hv, _⟩
    . rcases htexts k hk with ⟨t, ht⟩
      exact hother t ht
    . rcases hoverrides.texts _ hv with ⟨t, ht⟩
      exact hother t ht

structure Merges (file : Entries) (env : Environment) (overrides : Entries) (answer : Except Error Options)
    : Prop where
  ok_iff : ∀ o, answer = .ok o ↔ (∀ k, ¬ IsUnknown file overrides k) ∧ o.Follows (supplied? file env overrides)
  error_iff : (∃ e, answer = .error e)
    ↔ (∃ k, IsUnknown file overrides k) ∨
        ∃ n v, supplied? file env overrides n = some v ∧ ¬ Options.Accepts n v
  reported : (∀ k ∈ file.map (·.1), ∃ t, k = .text t) → ∀ e, answer = .error e → e.isReported = true

theorem load_merges (hoverrides : overrides.AreNamed) {file : Entries}
    (hfile : (c.fileOptions host files).1 = .ok file)
    : Merges file c.environment overrides (c.load host files overrides).1 := by
  have hvalues : (fun n => (combine file c.environment overrides).getName? n.name)
      = supplied? file c.environment overrides := by
    funext n
    exact getName?_combine hoverrides n
  have hok : ∀ o, (c.load host files overrides).1 = .ok o
      ↔ (∀ k, ¬ IsUnknown file overrides k) ∧ o.Follows (supplied? file c.environment overrides) := by
    intro o
    rw [load_of_fileOptions_ok hfile, Except.mapError_eq_ok, Options.ofEntries_eq_ok, hvalues]
    rw [List.eq_nil_iff_forall_not_mem]
    simp only [mem_unknownKeys_combine hoverrides]
  constructor
  . exact hok
  . have hfails : (∃ e, (c.load host files overrides).1 = .error e)
          ↔
        ¬ ∃ o, (c.load host files overrides).1 = .ok o := by
      cases (c.load host files overrides).1 with
      | error e => simp
      | ok o => simp
    rw [hfails]
    simp only [hok, exists_and_left, Options.exists_follows_iff, not_and_or, not_forall, not_not, exists_prop]
  . intro htexts e he
    exact (isReported_iff_of_load hoverrides hfile he).mpr htexts

-- What the file and the environment say only matters where it decides, also for which error there is.
theorem load_congr (hoverrides : overrides.AreNamed) {file file' : Entries} {env : Environment}
    (hfile : (c.fileOptions host files).1 = .ok file) (hkeys : file'.map (·.1) = file.map (·.1))
    (henv : ∀ n, (env.nonempty? (variableFor n)).isSome = (c.environment.nonempty? (variableFor n)).isSome)
    (hsupplied : ∀ n, supplied? file' env overrides n = supplied? file c.environment overrides n)
    : ({ c with environment := env, snapshot := some file' }.load host files overrides).1
        =
      (c.load host files overrides).1 := by
  have hfile' : ({ c with environment := env, snapshot := some file' }.fileOptions host files).1 = .ok file' := rfl
  have hsame : Options.ofEntries (combine file' env overrides)
      = Options.ofEntries (combine file c.environment overrides) := by
    apply Options.ofEntries_congr
    . exact keys_combine_congr hkeys henv
    . intro n
      rw [getName?_combine hoverrides, getName?_combine hoverrides, hsupplied]
  rw [load_of_fileOptions_ok hfile', load_of_fileOptions_ok hfile, hsame]

theorem exists_load_raises
    : let files : Files := [(['c'], .text "locale: 2001-99-99\n".toList)]
      ∃ c e, create Host.homeless (some ['c']) [] files = .ok c ∧
        (c.load Host.homeless files []).1 = .error e ∧
          (c.fileOptions Host.homeless files).1 = .error e ∧ e.isReported = false := by
  intro files
  have hcreate : create Host.homeless (some ['c']) [] files = .ok ⟨some ['c'], [], none⟩ := rfl
  have hfile : ((fileOptions .homeless files ⟨some ['c'], [], none⟩).1.map fun _ => ()).mapError (·.isReported)
      = .error false := by
    decide +kernel
  rcases Except.mapError_eq_error.mp hfile with ⟨e, he, hreported⟩
  rw [Except.map_eq_error] at he
  exact ⟨_, e, hcreate, load_of_fileOptions_error he, he, hreported⟩

end Configuration
end IdentSearch
