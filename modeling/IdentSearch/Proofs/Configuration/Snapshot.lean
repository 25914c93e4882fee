import Mathlib.Data.List.Induction
import IdentSearch.Configuration.Step
import IdentSearch.Proofs.Configuration.Precedence

/-!
The file of a configuration is read as a snapshot: whatever becomes of it, its options stay what they were when
they were read for the first time, until they are forgotten. A file that cannot be read leaves nothing behind.
-/

namespace IdentSearch.Configuration

/-! ### What a history says -/

def Step.needsFile : Step → Bool
  | .load _ => true
  | .loadFile => true
  | _ => false

def Step.onFiles (files : Files) : Step → Files
  | .write path content => files.write path content
  | .erase path => if files.entry path = .missing then files else files.erase path
  | _ => files

def filesAfter (files : Files) (steps : List Step) : Files := steps.foldl Step.onFiles files

/-- Right after the earlier ones of the steps the file was needed, and what it holds was not forgotten since. -/
def NeededAfter (earlier steps : List Step) : Prop :=
  ∃ i later, steps = earlier ++ i :: later ∧ i.needsFile = true ∧ ∀ j ∈ later, j ≠ .forget

/-- Since the file was last forgotten, it was never fit to be read when it was needed. -/
def NeverRead (host : Host) (path : Text) (files : Files) (steps : List Step) : Prop :=
  ∀ earlier, NeededAfter earlier steps → ∃ e, readFile host path (filesAfter files earlier) = .error e

/-- The options in the file when it was needed and fit to be read for the first time since it was last forgotten. -/
def FirstRead (host : Host) (path : Text) (files : Files) (steps : List Step) (entries : Entries) : Prop :=
  ∃ earlier, NeededAfter earlier steps ∧ readFile host path (filesAfter files earlier) = .ok entries ∧
    NeverRead host path files earlier

def answerFrom (env : Environment) (file : Entries) : Step → Except Error Answer
  | .load overrides =>
    ((Options.ofEntries (combine file env overrides)).mapError Error.options).map .options
  | _ => .ok (.entries file)

structure Snapshots (host : Host) (path : Text) (env : Environment) (files : Files) (steps : List Step)
    (w : Workplace) : Prop where
  files_eq : w.files = filesAfter files steps
  kept_iff : ∀ entries, w.configuration.snapshot = some entries ↔ FirstRead host path files steps entries
  nothing_kept_iff : w.configuration.snapshot = none ↔ NeverRead host path files steps
  kept : ∀ i entries, i.needsFile = true → FirstRead host path files steps entries
    → step host i w = (answerFrom env entries i, w)
  read : ∀ i entries, i.needsFile = true → NeverRead host path files steps → readFile host path w.files = .ok entries
    → (step host i w).1 = answerFrom env entries i
  failed : ∀ i e, i.needsFile = true → NeverRead host path files steps → readFile host path w.files = .error e
    → step host i w = (.error e, w) ∧ (e.isReported = false ↔ Raises host path w.files)
  environment : step host .loadEnvironment w = (.ok (.entries (environmentOptions env)), w)
  validation : ∀ overrides, (step host (.load overrides) w).2 = (step host .loadFile w).2

variable {host : Host} {path : Text} {env : Environment} {files : Files} {steps earlier : List Step} {i : Step}
variable {w : Workplace} {entries : Entries}

theorem ne_forget_of_needsFile (h : i.needsFile = true) : i ≠ .forget := by
  rintro rfl
  cases h

theorem onFiles_of_needsFile (h : i.needsFile = true) (files : Files) : i.onFiles files = files := by
  cases i with
  | load overrides => rfl
  | loadFile => rfl
  | loadEnvironment | forget | write | erase => cases h

theorem filesAfter_append_singleton
    : filesAfter files (steps ++ [i]) = i.onFiles (filesAfter files steps) := by
  rw [filesAfter, List.foldl_append]
  rfl

theorem neededAfter_append_singleton
    : NeededAfter earlier (steps ++ [i])
        ↔
      (i.needsFile = true ∧ earlier = steps) ∨ (i ≠ .forget ∧ NeededAfter earlier steps) := by
  constructor
  . rintro ⟨k, later, heq, hneeds, hkeeps⟩
    cases later using List.reverseRecOn with
    | nil =>
      have hsplit := List.append_inj' heq rfl
      cases List.singleton_inj.mp hsplit.2
      exact .inl ⟨hneeds, hsplit.1.symm⟩
    | append_singleton later j =>
      rw [← List.cons_append, ← List.append_assoc] at heq
      have hsplit := List.append_inj' heq rfl
      cases List.singleton_inj.mp hsplit.2
      refine .inr ⟨hkeeps i (by simp), k, later, hsplit.1, hneeds, ?_⟩
      intro j hj
      exact hkeeps j (List.mem_append_left _ hj)
  . rintro (⟨hneeds, rfl⟩ | ⟨hi, k, later, rfl, hneeds, hkeeps⟩)
    . exact ⟨i, [], rfl, hneeds, List.forall_mem_nil _⟩
    . refine ⟨k, later ++ [i], by simp, hneeds, ?_⟩
      intro j hj
      rcases List.mem_append.mp hj with hj | hj
      . exact hkeeps j hj
      . rw [List.mem_singleton.mp hj]
        exact hi

theorem not_neededAfter_nil : ¬ NeededAfter earlier [] := by
  rintro ⟨k, later, heq, _⟩
  simp at heq

theorem neverRead_nil : NeverRead host path files [] := by
  intro earlier hneeded
  exact absurd hneeded not_neededAfter_nil

theorem not_firstRead_nil : ¬ FirstRead host path files [] entries := by
  rintro ⟨earlier, hneeded, _⟩
  exact not_neededAfter_nil hneeded

theorem FirstRead.not_neverRead (h : FirstRead host path files steps entries) : ¬ NeverRead host path files steps := by
  rcases h with ⟨earlier, hneeded, hread, _⟩
  intro hnever
  rcases hnever earlier hneeded with ⟨e, he⟩
  rw [hread] at he
  cases he

theorem neverRead_append_singleton
    : NeverRead host path files (steps ++ [i])
        ↔
      (i.needsFile = true → ∃ e, readFile host path (filesAfter files steps) = .error e) ∧
        (i ≠ .forget → NeverRead host path files steps) := by
  constructor
  . intro h
    constructor
    . intro hneeds
      exact h steps (neededAfter_append_singleton.mpr (.inl ⟨hneeds, rfl⟩))
    . intro hi earlier hneeded
      exact h earlier (neededAfter_append_singleton.mpr (.inr ⟨hi, hneeded⟩))
  . rintro ⟨hnow, hbefore⟩ earlier hneeded
    rcases neededAfter_append_singleton.mp hneeded with ⟨hneeds, rfl⟩ | ⟨hi, hneeded⟩
    . exact hnow hneeds
    . exact hbefore hi earlier hneeded

theorem firstRead_append_singleton
    : FirstRead host path files (steps ++ [i]) entries
        ↔
      (i.needsFile = true ∧ readFile host path (filesAfter files steps) = .ok entries ∧
          NeverRead host path files steps) ∨
        (i ≠ .forget ∧ FirstRead host path files steps entries) := by
  unfold FirstRead
  simp only [neededAfter_append_singleton]
  constructor
  . rintro ⟨earlier, ⟨hneeds, rfl⟩ | ⟨hi, hneeded⟩, hread, hnever⟩
    . exact .inl ⟨hneeds, hread, hnever⟩
    . exact .inr ⟨hi, earlier, hneeded, hread, hnever⟩
  . rintro (⟨hneeds, hread, hnever⟩ | ⟨hi, earlier, hneeded, hread, hnever⟩)
    . exact ⟨steps, .inl ⟨hneeds, rfl⟩, hread, hnever⟩
    . exact ⟨earlier, .inr ⟨hi, hneeded⟩, hread, hnever⟩

/-! ### What a step keeps -/

section
variable {c : Configuration}

theorem fileOptions_of_kept (h : c.snapshot = some entries) : c.fileOptions host files = (.ok entries, c) := by
  unfold fileOptions
  rw [h]

theorem fileOptions_of_read (h : c.snapshot = none) (hpath : c.path = some path)
    (hread : readFile host path files = .ok entries)
    : c.fileOptions host files = (.ok entries, { c with snapshot := some entries }) := by
  unfold fileOptions
  rw [h, hpath]
  dsimp only
  rw [hread]

theorem fileOptions_of_failed (h : c.snapshot = none) (hpath : c.path = some path) {e : Error}
    (hread : readFile host path files = .error e) : c.fileOptions host files = (.error e, c) := by
  unfold fileOptions
  rw [h, hpath]
  dsimp only
  rw [hread]

end

theorem step_of_needsFile (h : i.needsFile = true)
    : step host i w =
        ((w.configuration.fileOptions host w.files).1 >>= fun file => answerFrom w.configuration.environment file i,
          { w with configuration := (w.configuration.fileOptions host w.files).2 }) := by
  cases i with
  | load overrides =>
    show (((w.configuration.load host w.files overrides).1).map _, _) = _
    cases hfile : (w.configuration.fileOptions host w.files).1 with
    | error e =>
      rw [load_of_fileOptions_error hfile]
      rfl
    | ok file =>
      rw [load_of_fileOptions_ok hfile]
      rfl
  | loadFile =>
    show (((w.configuration.fileOptions host w.files).1).map _, _) = _
    cases (w.configuration.fileOptions host w.files).1 with
    | error e => rfl
    | ok file => rfl
  | loadEnvironment | forget | write | erase => cases h

structure Tracks (host : Host) (path : Text) (env : Environment) (files : Files) (steps : List Step)
    (w : Workplace)
    : Prop where
  path_eq : w.configuration.path = some path
  environment_eq : w.configuration.environment = env
  files_eq : w.files = filesAfter files steps
  kept_iff : ∀ entries, w.configuration.snapshot = some entries ↔ FirstRead host path files steps entries
  nothing_kept_iff : w.configuration.snapshot = none ↔ NeverRead host path files steps

theorem tracks_nil {c : Configuration} (hpath : c.path = some path) (henv : c.environment = env)
    (hnone : c.snapshot = none) : Tracks host path env files [] ⟨c, files⟩ := by
  constructor
  . exact hpath
  . exact henv
  . rfl
  . intro entries
    simp [hnone, not_firstRead_nil]
  . simp [hnone, neverRead_nil]

namespace Tracks

variable (h : Tracks host path env files steps w)
include h

theorem of_keeps {w' : Workplace} (hneeds : i.needsFile = false) (hforget : i ≠ .forget)
    (hconfiguration : w'.configuration = w.configuration) (hfiles : w'.files = i.onFiles w.files)
    : Tracks host path env files (steps ++ [i]) w' := by
  constructor
  . rw [hconfiguration]
    exact h.path_eq
  . rw [hconfiguration]
    exact h.environment_eq
  . rw [hfiles, h.files_eq, filesAfter_append_singleton]
  . intro entries
    rw [hconfiguration, h.kept_iff, firstRead_append_singleton]
    simp [hneeds, hforget]
  . rw [hconfiguration, h.nothing_kept_iff, neverRead_append_singleton]
    simp [hneeds, hforget]

theorem of_forget : Tracks host path env files (steps ++ [.forget]) (step host .forget w).2 := by
  constructor
  . exact h.path_eq
  . exact h.environment_eq
  . rw [filesAfter_append_singleton]
    exact h.files_eq
  . intro entries
    simp [step, Configuration.forget, firstRead_append_singleton, Step.needsFile]
  . simp [step, Configuration.forget, neverRead_append_singleton, Step.needsFile]

theorem of_snapshot {snapshot : Option Entries} (hneeds : i.needsFile = true)
    (hkept : ∀ entries, snapshot = some entries ↔ FirstRead host path files (steps ++ [i]) entries)
    (hnothing : snapshot = none ↔ NeverRead host path files (steps ++ [i]))
    : Tracks host path env files (steps ++ [i])
        { w with configuration := { w.configuration with snapshot := snapshot } } := by
  constructor
  . exact h.path_eq
  . exact h.environment_eq
  . rw [filesAfter_append_singleton, onFiles_of_needsFile hneeds]
    exact h.files_eq
  . exact hkept
  . exact hnothing

theorem of_needsFile (hneeds : i.needsFile = true) : Tracks host path env files (steps ++ [i]) (step host i w).2 := by
  have hforget := ne_forget_of_needsFile hneeds
  rw [step_of_needsFile hneeds]
  cases hsnapshot : w.configuration.snapshot with
  | some file =>
    have hnot := ((h.kept_iff file).mp hsnapshot).not_neverRead
    rw [fileOptions_of_kept hsnapshot]
    apply h.of_snapshot hneeds
    . intro entries
      simp [firstRead_append_singleton, hforget, hnot, h.kept_iff]
    . simp [neverRead_append_singleton, hforget, hnot, h.nothing_kept_iff]
  | none =>
    have hnever := h.nothing_kept_iff.mp hsnapshot
    have hnot : ∀ entries, ¬ FirstRead host path files steps entries := by
      intro entries hfirst
      exact hfirst.not_neverRead hnever
    cases hread : readFile host path w.files with
    | ok file =>
      rw [fileOptions_of_read hsnapshot h.path_eq hread]
      rw [h.files_eq] at hread
      apply h.of_snapshot hneeds
      . intro entries
        simp [firstRead_append_singleton, hneeds, hnot, hnever, hread]
      . simp [neverRead_append_singleton, hneeds, hread]
    | error e =>
      rw [fileOptions_of_failed hsnapshot h.path_eq hread]
      rw [h.files_eq] at hread
      apply h.of_snapshot hneeds
      . intro entries
        simp [firstRead_append_singleton, hsnapshot, hnot, hread]
      . simp [neverRead_append_singleton, hsnapshot, hnever, hread]

theorem step (i : Step) : Tracks host path env files (steps ++ [i]) (step host i w).2 := by
  cases i with
  | load overrides => exact h.of_needsFile rfl
  | loadFile => exact h.of_needsFile rfl
  | loadEnvironment => exact h.of_keeps rfl Step.noConfusion rfl rfl
  | forget => exact h.of_forget
  | write path content => exact h.of_keeps rfl Step.noConfusion rfl rfl
  | erase path =>
    apply h.of_keeps rfl Step.noConfusion
    . rw [Configuration.step]
      split
      . rfl
      . rfl
    . rw [Configuration.step, Step.onFiles]
      split
      . rfl
      . rfl

theorem kept (hneeds : i.needsFile = true) (hfirst : FirstRead host path files steps entries)
    : Configuration.step host i w = (answerFrom env entries i, w) := by
  have hsnapshot := (h.kept_iff entries).mpr hfirst
  rw [step_of_needsFile hneeds, h.environment_eq, fileOptions_of_kept hsnapshot]
  rfl

theorem read (hneeds : i.needsFile = true) (hnever : NeverRead host path files steps)
    (hread : readFile host path w.files = .ok entries)
    : (Configuration.step host i w).1 = answerFrom env entries i := by
  have hsnapshot := h.nothing_kept_iff.mpr hnever
  rw [step_of_needsFile hneeds, h.environment_eq, fileOptions_of_read hsnapshot h.path_eq hread]
  rfl

theorem failed (hneeds : i.needsFile = true) (hnever : NeverRead host path files steps) {e : Error}
    (hread : readFile host path w.files = .error e) : Configuration.step host i w = (.error e, w) := by
  have hsnapshot := h.nothing_kept_iff.mpr hnever
  rw [step_of_needsFile hneeds, fileOptions_of_failed hsnapshot h.path_eq hread]
  rfl

end Tracks

theorem after_tracks {c : Configuration} (hpath : c.path = some path) (henv : c.environment = env)
    (hnone : c.snapshot = none) (steps : List Step)
    : Tracks host path env files steps (History.after (step host) steps ⟨c, files⟩) := by
  induction steps using List.reverseRecOn with
  | nil => exact tracks_nil hpath henv hnone
  | append_singleton steps i ih =>
    rw [History.after_append, History.after_cons, History.after_nil]
    exact ih.step i

theorem create_eq_ok {given : Option Text} {c : Configuration} (h : create host given env files = .ok c)
    : c.environment = env ∧ c.snapshot = none := by
  unfold create at h
  split at h
  . cases h
    exact ⟨rfl, rfl⟩
  . cases h
    exact ⟨rfl, rfl⟩
  . split at h
    . cases h
    . split at h
      . cases h
      . cases h
        exact ⟨rfl, rfl⟩

theorem after_snapshots {given : Option Text} {c : Configuration} (h : create host given env files = .ok c)
    (hpath : c.path = some path) (steps : List Step)
    : Snapshots host path env files steps (History.after (step host) steps ⟨c, files⟩) := by
  rcases create_eq_ok h with ⟨henv, hnone⟩
  have htracks : Tracks host path env files steps (History.after (step host) steps ⟨c, files⟩) :=
    after_tracks hpath henv hnone steps
  generalize History.after (step host) steps ⟨c, files⟩ = w at htracks
  constructor
  . exact htracks.files_eq
  . exact htracks.kept_iff
  . exact htracks.nothing_kept_iff
  . intro i entries hneeds hfirst
    exact htracks.kept hneeds hfirst
  . intro i entries hneeds hnever hread
    exact htracks.read hneeds hnever hread
  . intro i e hneeds hnever hread
    exact ⟨htracks.failed hneeds hnever hread, isReported_iff_of_readFile hread⟩
  . rw [step, htracks.environment_eq]
  . intro overrides
    rw [step_of_needsFile rfl, step_of_needsFile rfl]

-- An empty file is kept when it is erased, but not when it is forgotten then.
theorem after_snapshots_empty
    : let host := Host.homeless
      let path : Text := ['c']
      let files : Files := [(path, .text [])]
      let c : Configuration := ⟨some path, [], none⟩
      let steps : List Step := [.loadFile, .erase path]
      create host (some path) [] files = .ok c ∧ c.path = some path ∧
        Snapshots host path [] files steps (History.after (step host) steps ⟨c, files⟩) ∧
          (History.after (step host) steps ⟨c, files⟩).files = [] ∧
            (step host .loadFile (History.after (step host) steps ⟨c, files⟩)).1 = .ok (.entries []) ∧
              (step host .loadFile (History.after (step host) (steps ++ [.forget]) ⟨c, files⟩)).1
                = .error (.vanishedFile path) := by
  intro host path files c steps
  have hcreate : create host (some path) [] files = .ok c := by rfl
  have hpath : c.path = some path := by rfl
  have hsnapshots := after_snapshots hcreate hpath steps
  exact ⟨hcreate, hpath, hsnapshots, rfl, rfl, rfl⟩

-- The file `locale: 2001-99-99` cannot be read, and the error about its date is none of the configuration.
theorem not_forall_failed_isReported
    : ¬ ∀ (given : Option Text) (env : Environment) (files : Files) (c : Configuration) (path : Text)
        (steps : List Step) (i : Step) (e : Error), create .homeless given env files = .ok c → c.path = some path
          → i.needsFile = true → NeverRead .homeless path files steps
          → (step .homeless i (History.after (step .homeless) steps ⟨c, files⟩)).1 = .error e
          → readFile .homeless path (filesAfter files steps) = .error e → e.isReported = true := by
  intro h
  let path : Text := ['c']
  let files : Files := [(path, .text "locale: 2001-99-99\n".toList)]
  have hread : ((readFile .homeless path files).map fun _ => ()).mapError (·.isReported) = .error false := by
    decide +kernel
  rcases Except.mapError_eq_error.mp hread with ⟨e, he, hreported⟩
  rw [Except.map_eq_error] at he
  have hstep : (step .homeless .loadFile ⟨⟨some path, [], none⟩, files⟩).1 = .error e := by
    rw [step_of_needsFile rfl, fileOptions_of_failed rfl rfl he]
    rfl
  rw [h (some path) [] files ⟨some path, [], none⟩ path [] .loadFile e rfl rfl rfl neverRead_nil hstep he] at hreported
  cases hreported

end IdentSearch.Configuration
