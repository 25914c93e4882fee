import IdentSearch.CommandLine.Run
import IdentSearch.Proofs.Configuration.Snapshot

/-!
The options of a ranking: what its arguments say counts more than what the environment says, and that counts more
than what a file says. Spans are asked for whatever any of them says.
-/

namespace IdentSearch

namespace Entries

variable {es es' : Entries} {t : Text}

theorem AreNamed.perm (h : es.AreNamed) (hperm : es.Perm es') : es'.AreNamed := by
  constructor
  . intro e he
    exact h.texts e (hperm.mem_iff.mpr he)
  . exact (hperm.map _).nodup_iff.mp h.distinct

theorem get?_perm (h : es.AreNamed) (hperm : es.Perm es') : get? (.text t) es' = get? (.text t) es := by
  ext v
  rw [get?_eq_some_iff h, get?_eq_some_iff (h.perm hperm), hperm.mem_iff]

end Entries

namespace CommandLine.RankArguments

def flag? (a : RankArguments) : OptionName → Option Value
  | .locale => a.locale.map .text
  | .allowFuzzy => a.fuzzy.map .bool
  | .allowSubstring => a.substring.map .bool
  | .includeSpans => some (.bool true)
  | .separators => a.separators.map .text

/-- The value of an option from the arguments, or else from the environment, or else from a file. -/
def value? (a : RankArguments) (file : Entries) (env : Environment) (n : OptionName) : Option Value :=
  (a.flag? n).or (((env.nonempty? (Configuration.variableFor n)).map .text).or (file.getName? n.name))

variable {a : RankArguments} {config : Option Text} {s : Surroundings} {file : Entries} {env : Environment}

theorem isGiven_of_flag? {n : OptionName} {v : Value} (h : a.flag? n = some v) : v.isGiven = true := by
  cases n with
  | locale | allowFuzzy | allowSubstring | separators =>
    rcases Option.map_eq_some_iff.mp h with ⟨x, _, rfl⟩
    rfl
  | includeSpans =>
    cases h
    rfl

theorem overrides_perm (a : RankArguments) : (OptionName.listed a.flag?).Perm a.overrides := by
  have hoverrides : a.overrides
      = [OptionName.allowFuzzy, .allowSubstring, .separators, .locale, .includeSpans].filterMap fun n =>
          (a.flag? n).map fun v => (Value.ofString n.name, v) := by
    unfold overrides flag?
    cases a.fuzzy <;> cases a.substring <;> cases a.separators <;> cases a.locale <;> rfl
  rw [hoverrides, OptionName.listed]
  apply List.Perm.filterMap
  decide

theorem overrides_areNamed (a : RankArguments) : a.overrides.AreNamed :=
  (OptionName.listed_areNamed a.flag?).perm a.overrides_perm

theorem supplied?_overrides (n : OptionName)
    : Configuration.supplied? file env a.overrides n = a.value? file env n := by
  have hflag : a.overrides.getName? n.name = a.flag? n := by
    rw [← OptionName.getName?_listed a.flag? n]
    exact Entries.get?_perm (OptionName.listed_areNamed a.flag?) a.overrides_perm
  have hgiven : (a.flag? n).filter (·.isGiven) = a.flag? n := by
    cases hn : a.flag? n with
    | none => rfl
    | some v => rw [Option.filter_some, if_pos (isGiven_of_flag? hn)]
  rw [Configuration.supplied?, hflag, hgiven, value?]

theorem not_isUnknown_overrides_iff
    : (∀ k, ¬ Configuration.IsUnknown file a.overrides k)
        ↔
      ∀ k ∈ file.map (·.1), ∃ n : OptionName, k = .ofString n.name := by
  constructor
  . intro hnone k hk
    by_contra hother
    push Not at hother
    exact hnone k ⟨hother, .inl hk⟩
  . rintro hknown k ⟨hother, hk | ⟨v, hv, _⟩⟩
    . rcases hknown k hk with ⟨n, rfl⟩
      exact hother n rfl
    . rcases OptionName.mem_listed.mp (a.overrides_perm.mem_iff.mpr hv) with ⟨n, w, _, heq⟩
      exact hother n (congrArg Prod.fst heq)

/--
The options are what the sources say: the arguments, the environment, and the file at a path or the one that the
environment names. The file says nothing about other options than there are.
-/
def Chooses (a : RankArguments) (config : Option Text) (s : Surroundings) (o : Options) : Prop :=
  ∃ c file, Configuration.create s.host config s.environment s.files = .ok c ∧
    (c.fileOptions s.host s.files).1 = .ok file ∧
    (∀ k ∈ file.map (·.1), ∃ n : OptionName, k = .ofString n.name) ∧
    o.Follows (a.value? file s.environment)

theorem Chooses.includeSpans_eq {o : Options} (h : a.Chooses config s o) : o.includeSpans = true := by
  rcases h with ⟨c, file, _, _, _, hfollows⟩
  have hspans : Options.IsSwitch (.bool true) o.includeSpans := hfollows.includeSpans
  generalize o.includeSpans = b at hspans
  cases hspans with
  | bool => rfl

theorem load_eq_ok_iff {o : Options} : a.load config s = .ok o ↔ a.Chooses config s o := by
  have hvalues : ∀ file env, Configuration.supplied? file env a.overrides = a.value? file env := by
    intro file env
    funext n
    exact supplied?_overrides n
  rw [load, Except.bind_eq_ok]
  constructor
  . rintro ⟨c, hcreate, hload⟩
    have henv := (Configuration.create_eq_ok hcreate).1
    cases hfile : (c.fileOptions s.host s.files).1 with
    | error e =>
      rw [Configuration.load_of_fileOptions_error hfile] at hload
      cases hload
    | ok file =>
      have hmerges := Configuration.load_merges a.overrides_areNamed hfile
      rw [hmerges.ok_iff, not_isUnknown_overrides_iff, hvalues, henv] at hload
      exact ⟨c, file, hcreate, hfile, hload.1, hload.2⟩
  . rintro ⟨c, file, hcreate, hfile, hknown, hfollows⟩
    have henv := (Configuration.create_eq_ok hcreate).1
    have hmerges := Configuration.load_merges a.overrides_areNamed hfile
    refine ⟨c, hcreate, ?_⟩
    rw [hmerges.ok_iff, not_isUnknown_overrides_iff, hvalues, henv]
    exact ⟨hknown, hfollows⟩

end CommandLine.RankArguments
end IdentSearch
