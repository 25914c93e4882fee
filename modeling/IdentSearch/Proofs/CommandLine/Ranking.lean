import IdentSearch.Proofs.CommandLine.Overrides
import IdentSearch.Proofs.CommandLine.Shown
import IdentSearch.Proofs.Session.Views
import IdentSearch.Proofs.Terminal.Markup
import IdentSearch.Proofs.Text.Lines

/-!
What a run reports that is asked for a ranking: the status tells whether something matched, and the ranking is that
of all candidates there are. Only an error whose text has marks that are not balanced breaks the run off.
-/

namespace IdentSearch.CommandLine

structure Asks (args : List Text) (s : Surroundings) (g : Global) (a : RankArguments) : Prop where
  before : Global.parse args = .ok (.perform g)
  command : g.command = .rank
  behind : RankArguments.parse g.rest = .ok (.perform a)
  config : g.config.all Files.isPossible = true
  file : ∀ path, a.file = some path → Files.isPossible path = true ∧ ∃ t, candidateContent? s path = some (.text t)

def errorText (e : Configuration.Error) : Text :=
  Terminal.styled ['r', 'e', 'd'] "Error:".toList ++ ' ' :: e.message.toList

variable {args : List Text} {s : Surroundings} {g : Global} {a : RankArguments} {config : Option Text}
  {o : Options} {m : Matcher}

/-! ### Candidates -/

def fileLines (s : Surroundings) (path : Text) : List Text :=
  match candidateContent? s path with
  | some (.text t) => t.lines
  | _ => []

def RankArguments.everyCandidate (a : RankArguments) (s : Surroundings) : List Text :=
  a.candidates ++ (a.file.map (fileLines s)).getD []

theorem ranked_filter (m : Matcher) (ts : List Text)
    : ((ts.filter fun t => !t.isBlank).map some).filterMap m.ranked = (ts.map some).filterMap m.ranked := by
  induction ts with
  | nil => rfl
  | cons t ts ih =>
    cases hblank : t.isBlank with
    | true =>
      rw [List.filter_cons, hblank, Bool.not_true, if_neg Bool.false_ne_true, ih, List.map_cons, List.filterMap_cons,
        Matcher.ranked_blank hblank]
    | false =>
      rw [List.filter_cons, hblank, Bool.not_false, if_pos rfl, List.map_cons, List.map_cons, List.filterMap_cons,
        List.filterMap_cons, ih]

-- The blank lines that are left out have no rank anyway.
theorem Asks.exists_allCandidates (h : Asks args s g a)
    : ∃ ts, a.allCandidates s = .ok ts ∧
        ∀ m : Matcher, (ts.map some).filterMap m.ranked = ((a.everyCandidate s).map some).filterMap m.ranked := by
  unfold RankArguments.allCandidates RankArguments.everyCandidate
  cases hfile : a.file with
  | none =>
    refine ⟨a.candidates, rfl, ?_⟩
    intro m
    rw [Option.map_none, Option.getD_none, List.append_nil]
  | some path =>
    rcases (h.file path hfile).2 with ⟨t, ht⟩
    dsimp only
    rw [fileCandidates, ht, Option.map_some, Option.getD_some, fileLines, ht]
    refine ⟨_, rfl, ?_⟩
    intro m
    rw [List.map_append, List.map_append, List.filterMap_append, List.filterMap_append, Text.nonblankLines_eq_filter,
      ranked_filter]

/-! ### The run -/

theorem setup_of_noFormat {env : Environment} (h : env.get? "PATMATCH_LOG_FORMAT" = none) (verbose : Bool)
    : ∃ logging, Logging.setup verbose env = .ok logging := by
  have hnonempty : Logging.defaultFormat.isEmpty = false := by decide
  have hdefault : Logging.hasReference Logging.defaultFormat = true := by decide
  unfold Logging.setup
  dsimp only
  rw [h, Option.getD_none, hnonempty, if_neg Bool.false_ne_true, hdefault, if_pos rfl]
  exact ⟨_, rfl⟩

theorem Asks.perform_eq (h : Asks args s g a) : perform g s = .ok (rank g.config a s) := by
  unfold perform
  rw [h.command]
  dsimp only
  rw [h.behind]
  cases hfile : a.file with
  | none =>
    simp only [bind, Except.bind, hfile]
    rfl
  | some path =>
    rcases h.file path hfile with ⟨hpossible, t, ht⟩
    simp only [bind, Except.bind, hfile, hpossible, ht]
    rfl

theorem Asks.run_eq (h : Asks args s g a) (hlog : s.environment.get? "PATMATCH_LOG_FORMAT" = none)
    : ∃ level, run args s = (rank g.config a s).map fun r => ⟨r.1, r.2, level⟩ := by
  rcases setup_of_noFormat hlog (g.verbose || Logging.wantsVerbose s.environment) with ⟨logging, hsetup⟩
  refine ⟨logging.level, ?_⟩
  unfold run
  rw [h.before]
  dsimp only
  rw [h.config, Bool.not_true, if_neg Bool.false_ne_true, hsetup]
  dsimp only
  rw [h.perform_eq]
  cases rank g.config a s with
  | error e => rfl
  | ok r => rfl

/-! ### Errors -/

/-- The text ends a style that has not begun, and nothing before that can be meant as a mark. -/
def EndsUnbegun (t : Text) : Prop :=
  ∃ before name behind, Terminal.IsPlain before ∧ Terminal.IsStyleName name ∧
    t = before ++ '[' :: '/' :: (name ++ ']' :: behind)

def CanReport (s : Surroundings) (e : Configuration.Error) : Prop := ∃ t, s.markup (errorText e) = .ok t

theorem isStyleName_red : Terminal.IsStyleName ['r', 'e', 'd'] := by
  constructor
  . decide
  . simp only [List.forall_mem_cons]
    exact ⟨rfl, rfl, rfl, List.forall_mem_nil _⟩

theorem isPlain_error : Terminal.IsPlain "Error:".toList := ⟨by decide, by decide⟩

theorem canReport_of_plain (hmarkup : s.markup.IsLawful) {e : Configuration.Error} (h : '[' ∉ e.message.toList)
    : CanReport s e := by
  apply hmarkup.balanced isStyleName_red isPlain_error
  rw [List.mem_cons, not_or]
  exact ⟨by decide, h⟩

theorem not_canReport_of_endsUnbegun (hmarkup : s.markup.IsLawful) {e : Configuration.Error}
    (h : EndsUnbegun e.message.toList) : ¬ CanReport s e := by
  rcases h with ⟨before, name, behind, hbefore, hname, hmessage⟩
  have hblank : Terminal.IsPlain (' ' :: before) := by
    constructor
    . rw [List.mem_cons, not_or]
      exact ⟨by decide, hbefore.brackets⟩
    . rw [List.mem_cons, not_or]
      exact ⟨by decide, hbefore.backslashes⟩
  obtain ⟨reason, hreason⟩ : ∃ reason, s.markup (errorText e) = .error reason := by
    rw [errorText, hmessage]
    exact hmarkup.unbalanced isStyleName_red isPlain_error hblank hname
  rintro ⟨t, ht⟩
  rw [hreason] at ht
  cases ht

theorem configurationReport_of_isReported {e : Configuration.Error} (h : e.isReported = true)
    : configurationReport s e = messageReport s misused (errorText e) := by
  have htext : ("[red]" ++ "Error" ++ ":[/red] " ++ e.message).toList = errorText e := by
    rw [String.toList_append]
    rfl
  rw [configurationReport, if_pos h, errorReport, htext]

theorem messageReport_status {status : Nat} {t : Text} {r : Report} (h : messageReport s status t = .ok r)
    : r.1 = status := by
  rcases Except.map_eq_ok.mp h with ⟨u, _, rfl⟩
  rfl

theorem exists_errorReport_create (hmarkup : s.markup.IsLawful) (e : Matcher.Error)
    : ∃ t, errorReport s "Invalid argument" e.message = .ok (misused, t) := by
  have hplain : '[' ∉ ' ' :: e.message.toList := by cases e <;> decide
  have habout : Terminal.IsPlain "Invalid argument:".toList := ⟨by decide, by decide⟩
  rcases hmarkup.balanced isStyleName_red habout hplain with ⟨t, ht⟩
  have htext : ("[red]" ++ "Invalid argument" ++ ":[/red] " ++ e.message).toList
      = Terminal.styled ['r', 'e', 'd'] "Invalid argument:".toList ++ ' ' :: e.message.toList := by
    rw [String.toList_append]
    rfl
  refine ⟨Terminal.message t, ?_⟩
  rw [errorReport, messageReport, Surroundings.written, htext, ht]
  rfl

/-! ### Reports -/

def RankArguments.Fails (a : RankArguments) (config : Option Text) (s : Surroundings) : Prop :=
  (∃ e, a.load config s = .error e)
    ∨ ∃ o e, a.load config s = .ok o ∧ Matcher.create (some a.pattern) (some o) = .error e

-- The outcome shows the ranking of all candidates as far as the limit goes. Its status tells whether there is a
-- match, and it makes no difference that blank lines are skipped.
structure Shows (a : RankArguments) (s : Surroundings) (m : Matcher) (items : List Ranked) (out : Outcome) : Prop where
  ranks : ((Session.start m).rank false ((a.everyCandidate s).map some) none Session.neverCancelled).1 = .ok items
  skips : ∃ ts, a.allCandidates s = .ok ts ∧ ∀ limit,
    ((Session.start m).rank false (ts.map some) limit Session.neverCancelled).1
      = ((Session.start m).rank false ((a.everyCandidate s).map some) limit Session.neverCancelled).1
  lists : shownRanking? out.output = some (items.take a.limit.toNat)
  found_iff : out.exitCode = found
    ↔ ∃ t ∈ a.everyCandidate s, ∃ r, ((Session.start m).tryMatch (some t)).1 = .ok (some r)
  notFound_iff : out.exitCode = notFound
    ↔ ∀ t ∈ a.everyCandidate s, ((Session.start m).tryMatch (some t)).1 = .ok none

structure Reports (a : RankArguments) (config : Option Text) (s : Surroundings) (answer : Except Failure Outcome)
    : Prop where
  breaksOff_iff : (∃ f, answer = .error f) ↔ ∃ e, a.load config s = .error e ∧ ¬ CanReport s e
  breaksOff : ∀ e, a.load config s = .error e → EndsUnbegun e.message.toList → ∃ f, answer = .error f
  goesOn : (∀ e, a.load config s = .error e → '[' ∉ e.message.toList) → ∃ out, answer = .ok out
  misused_iff : ∀ out, answer = .ok out → (out.exitCode = misused ↔ a.Fails config s)
  loads_iff : ∀ o, a.load config s = .ok o ↔ a.Chooses config s o
  spans : ∀ o, a.load config s = .ok o → o.includeSpans = true
  shows : ∀ o m, a.load config s = .ok o → Matcher.create (some a.pattern) (some o) = .ok m →
    ∃ items out, answer = .ok out ∧ Shows a s m items out

theorem rank_of_load_error {e : Configuration.Error} (h : a.load config s = .error e) (hreported : e.isReported = true)
    : rank config a s = messageReport s misused (errorText e) := by
  rw [rank, h, ← configurationReport_of_isReported hreported]

theorem rank_of_load_ok (h : a.load config s = .ok o) {ts : List Text} (hts : a.allCandidates s = .ok ts)
    : rank config a s
        =
      match Matcher.create (some a.pattern) (some o) with
      | .error e => errorReport s "Invalid argument" e.message
      | .ok m =>
        rankedReport s a.format a.pattern
          (Ranked.takeLimit (some a.limit) (Ranked.sort false ((ts.map some).filterMap m.ranked))) := by
  rw [rank, h]
  dsimp only
  rw [hts]
  show (match Matcher.create (some a.pattern) (some o) with | .error e => _ | .ok m => _) = _
  cases Matcher.create (some a.pattern) (some o) with
  | error e => rfl
  | ok m =>
    dsimp only
    rw [(Session.start_isOf m).rank_eq rfl, Session.lookedAt_neverCancelled]

theorem tryMatch_start (m : Matcher) (t : Text) : ((Session.start m).tryMatch (some t)).1 = .ok (m.outcome (some t)) :=
  (Session.start_isOf m).tryMatch_eq rfl (some t)

theorem ranked_eq_nil_iff {ts : List Text}
    : (ts.map some).filterMap m.ranked = []
        ↔
      ∀ t ∈ ts, ((Session.start m).tryMatch (some t)).1 = .ok none := by
  have hranked : ∀ t, m.ranked (some t) = none ↔ m.outcome (some t) = none := by
    intro t
    rw [Matcher.ranked, Option.bind_some, Option.map_eq_none_iff]
  simp only [List.filterMap_eq_nil_iff, List.forall_mem_map, hranked, tryMatch_start, Except.ok.injEq]

theorem exists_tryMatch_iff {ts : List Text}
    : (∃ t ∈ ts, ∃ r, ((Session.start m).tryMatch (some t)).1 = .ok (some r))
        ↔
      ¬ ∀ t ∈ ts, ((Session.start m).tryMatch (some t)).1 = .ok none := by
  simp only [tryMatch_start, Except.ok.injEq, not_forall, exists_prop, Option.ne_none_iff_exists']

theorem Shows.not_misused {items : List Ranked} {out : Outcome} (h : Shows a s m items out)
    : out.exitCode ≠ misused := by
  intro hmisused
  have hfound := mt h.found_iff.mpr (by rw [hmisused]; decide)
  rw [exists_tryMatch_iff, not_not, ← h.notFound_iff, hmisused] at hfound
  cases hfound

theorem rankedReport_shows (h : Asks args s g a) (hlimit : 1 ≤ a.limit) (m : Matcher) (level : LogLevel)
    : let items := Ranked.sort false (((a.everyCandidate s).map some).filterMap m.ranked)
      ∃ r, rankedReport s .json a.pattern (Ranked.takeLimit (some a.limit) items) = .ok r ∧
        Shows a s m items ⟨r.1, r.2, level⟩ := by
  intro items
  obtain ⟨k, hk, hpos⟩ : ∃ k : Nat, a.limit = k ∧ 1 ≤ k := ⟨a.limit.toNat, by omega, by omega⟩
  have hnone : items = [] ↔ ∀ t ∈ a.everyCandidate s, ((Session.start m).tryMatch (some t)).1 = .ok none := by
    rw [← ranked_eq_nil_iff, ← List.length_eq_zero_iff, ← List.length_eq_zero_iff]
    rw [(Ranked.sort_perm false _).length_eq]
  have hempty : (items.take k).isEmpty = true ↔ items = [] := by
    rw [List.isEmpty_iff, List.take_eq_nil_iff]
    constructor
    . rintro (hzero | hitems)
      . omega
      . exact hitems
    . exact .inr
  rw [hk, Ranked.takeLimit_natCast]
  refine ⟨_, rfl, ?_⟩
  constructor
  . rw [(Session.start_isOf m).rank_eq rfl, Session.lookedAt_neverCancelled]
    rfl
  . rcases h.exists_allCandidates with ⟨ts, hts, hranked⟩
    refine ⟨ts, hts, ?_⟩
    intro limit
    rw [(Session.start_isOf m).rank_eq rfl, (Session.start_isOf m).rank_eq rfl, Session.lookedAt_neverCancelled,
      Session.lookedAt_neverCancelled, hranked]
  . rw [hk, Int.toNat_natCast]
    exact shownRanking?_render _
  . rw [exists_tryMatch_iff, ← hnone, ← hempty]
    dsimp only
    split
    . next h => simp [h, found, notFound]
    . next h => simp [h]
  . rw [← hnone, ← hempty]
    dsimp only
    split
    . next h => simp [h]
    . next h => simp [h, found, notFound]

theorem canReport_iff {e : Configuration.Error} {status : Nat}
    : CanReport s e ↔ ∃ r, messageReport s status (errorText e) = .ok r := by
  rw [CanReport, messageReport, Surroundings.written]
  cases s.markup (errorText e) with
  | error _ => simp [Except.mapError, Except.map]
  | ok t => simp [Except.mapError, Except.map]

theorem reports_of_load_error (hmarkup : s.markup.IsLawful) {e : Configuration.Error} (h : a.load config s = .error e)
    (level : LogLevel)
    : Reports a config s ((messageReport s misused (errorText e)).map fun r => ⟨r.1, r.2, level⟩) := by
  have hbreaks : (∃ f, ((messageReport s misused (errorText e)).map fun r => (⟨r.1, r.2, level⟩ : Outcome)) = .error f)
      ↔ ¬ CanReport s e := by
    rw [@canReport_iff s e misused]
    cases messageReport s misused (errorText e) with
    | error _ => simp [Except.map]
    | ok r => simp [Except.map]
  constructor
  . rw [h, hbreaks]
    simp
  . intro e' he' hends
    rw [h] at he'
    cases he'
    exact hbreaks.mpr (not_canReport_of_endsUnbegun hmarkup hends)
  . intro hplain
    rcases canReport_iff.mp (canReport_of_plain hmarkup (hplain e h)) with ⟨r, hr⟩
    rw [hr]
    exact ⟨_, rfl⟩
  . intro out hout
    rcases Except.map_eq_ok.mp hout with ⟨r, hr, rfl⟩
    exact iff_of_true (messageReport_status hr) (.inl ⟨e, h⟩)
  . exact fun _ => RankArguments.load_eq_ok_iff
  . intro o ho
    rw [h] at ho
    cases ho
  . intro o m ho
    rw [h] at ho
    cases ho

theorem reports_of_load_ok {out : Outcome} (h : a.load config s = .ok o)
    (hmisused : out.exitCode = misused ↔ ∃ e, Matcher.create (some a.pattern) (some o) = .error e)
    (hshows : ∀ m, Matcher.create (some a.pattern) (some o) = .ok m → ∃ items, Shows a s m items out)
    : Reports a config s (.ok out) := by
  constructor
  . rw [h]
    simp
  . intro e he
    rw [h] at he
    cases he
  . intro _
    exact ⟨out, rfl⟩
  . rintro out ⟨⟩
    rw [hmisused, RankArguments.Fails, h]
    simp
  . exact fun _ => RankArguments.load_eq_ok_iff
  . intro o ho
    exact (RankArguments.load_eq_ok_iff.mp ho).includeSpans_eq
  . intro o' m ho' hm
    rw [h] at ho'
    cases ho'
    rcases hshows m hm with ⟨items, hitems⟩
    exact ⟨items, out, rfl, hitems⟩

-- There is no file `[/x]`, but the text that says so ends a style that has not begun.
theorem exists_run_breaksOff
    : ∃ args s g a e, Asks args s g a ∧ s.markup.IsLawful ∧ a.format = .json ∧ 1 ≤ a.limit ∧
        s.environment.get? "PATMATCH_LOG_FORMAT" = none ∧ a.load g.config s = .error e ∧ e.isReported = true ∧
          (run args s).isOk = false := by
  let path : Text := ['[', '/', 'x', ']']
  let rest : List Text := ["-o", "json", "a", "b"].map (·.toList)
  let s : Surroundings := ⟨.homeless, Terminal.withoutMarks, [], [], []⟩
  refine ⟨["-c".toList, path, "match".toList] ++ rest, s, ⟨some path, false, .rank, rest⟩,
    ⟨['a'], [['b']], none, none, none, none, none, defaultLimit, .json⟩, .missingFile path, ?_⟩
  have hbreaks : (run (["-c".toList, path, "match".toList] ++ rest) s).isOk = false := by decide +kernel
  refine ⟨⟨rfl, rfl, rfl, rfl, ?_⟩, Terminal.withoutMarks_isLawful, rfl, by decide, rfl, rfl, rfl, hbreaks⟩
  rintro path ⟨⟩

end IdentSearch.CommandLine
