import IdentSearch.CommandLine.Command
import IdentSearch.CommandLine.Logging
import IdentSearch.Json
import IdentSearch.Ranking
import IdentSearch.Terminal.Markup
import IdentSearch.Terminal.Table
import IdentSearch.Terminal.Wrap

/-!
The commands carried out: from arguments, files and the environment to what is written and the status with
which the program ends.
-/

namespace IdentSearch.CommandLine

-- What a command can see besides its arguments, and the markup in which it writes messages and tables.
structure Surroundings where
  host : Host
  markup : Terminal.Markup
  environment : Environment
  files : Files
  input : Text

structure Outcome where
  exitCode : Nat
  output : Text
  logLevel : LogLevel
deriving DecidableEq, Repr

-- Why a run breaks off before its end.
inductive Failure
  | logging (e : Logging.Error)
  | configuration (e : Configuration.Error)
  | path
  | undecodable (reason : String)
  | markup (reason : String)

def Failure.kind : Failure → String
  | logging _ => "ValueError"
  | configuration e => e.kind
  | path => "ValueError"
  | undecodable _ => "UnicodeDecodeError"
  | markup _ => "MarkupError"

def Failure.message : Failure → String
  | logging e => e.message
  | configuration e => e.message
  | path => "embedded null byte"
  | undecodable reason => reason
  | markup reason => reason

def found : Nat := 0

def notFound : Nat := 1

def misused : Nat := 2

abbrev Report := Nat × Text

def Surroundings.written (s : Surroundings) (t : Text) : Except Failure Text := (s.markup t).mapError .markup

-- The report of a text with marks, which is wrapped at the width of the terminal.
def messageReport (s : Surroundings) (status : Nat) (t : Text) : Except Failure Report :=
  (s.written t).map fun t => (status, Terminal.message t)

-- The report of an error behind a word or two on what it is about.
def errorReport (s : Surroundings) (about text : String) : Except Failure Report :=
  messageReport s misused ("[red]" ++ about ++ ":[/red] " ++ text).toList

def RankArguments.overrides (a : RankArguments) : Entries :=
  let given (o : OptionName) (v : Option Value) : Entries :=
    (v.map fun v => (Value.ofString o.name, v)).toList
  given .allowFuzzy (a.fuzzy.map .bool) ++ given .allowSubstring (a.substring.map .bool)
    ++ given .separators (a.separators.map .text) ++ given .locale (a.locale.map .text)
    ++ given .includeSpans (some (.bool true))

-- What is read where candidates are looked for. A hyphen stands for the standard input.
def candidateContent? (s : Surroundings) (path : Text) : Option Content :=
  if path == ['-'] then some (.text s.input)
  else match s.files.entry path with
    | .file content => some content
    | _ => none

-- The candidates of a file, one on each line. Blank lines hold none.
def fileCandidates (s : Surroundings) (path : Text) : Except Failure (List Text) :=
  match candidateContent? s path with
  | some (.text t) => .ok t.nonblankLines
  | some (.undecodable reason) => .error (.undecodable reason)
  | none => .ok []

-- All candidates: those of the arguments, then those of the file.
def RankArguments.allCandidates (a : RankArguments) (s : Surroundings) : Except Failure (List Text) :=
  match a.file with
  | some path => (fileCandidates s path).map (a.candidates ++ ·)
  | none => .ok a.candidates

def rankedValue (r : Ranked) : Value :=
  .map [
    (.ofString "candidate", .text r.candidate),
    (.ofString "kind", .ofString r.result.kind.name),
    (.ofString "is_case_sensitive", .bool r.result.caseSensitive),
    (.ofString "punctuation_stripped", .bool r.result.punctuationStripped),
    (.ofString "matched_spans",
      .list (r.result.spans.map fun s => .list [.int s.start, .int s.length]))]

def rankedTable (title : Text) (rs : List Ranked) : Terminal.Table where
  title := title
  columns := ["Candidate", "Kind", "Case", "Punctuation"].map fun h => ⟨h.toList, .left⟩
  rows := rs.map fun r => [
    r.candidate,
    r.result.kind.name.toList,
    (if r.result.caseSensitive then "sensitive" else "insensitive").toList,
    (if r.result.punctuationStripped then "stripped" else "kept").toList]

def rankedReport (s : Surroundings) (format : OutputFormat) (pattern : Text) (rs : List Ranked)
    : Except Failure Report :=
  let status := if rs.isEmpty then notFound else found
  match format with
  | .json => .ok (status, Json.render 0 (.list (rs.map rankedValue)) ++ ['\n'])
  | .table =>
    if rs.isEmpty then
      messageReport s status ("[yellow]No candidates matched:[/yellow] ".toList ++ pattern)
    else do
      let title ← s.written ("Matches for '".toList ++ pattern ++ ['\''])
      return (status, (rankedTable title rs).render)

-- The report of an error in the configuration. An error that is none of the configuration breaks the run off.
def configurationReport (s : Surroundings) (e : Configuration.Error) : Except Failure Report :=
  if e.isReported then errorReport s "Error" e.message else .error (.configuration e)

-- The options that the arguments lead to. They come from the file at a path or the one that the environment names.
def RankArguments.load (a : RankArguments) (config : Option Text) (s : Surroundings)
    : Except Configuration.Error Options := do
  let c ← Configuration.create s.host config s.environment s.files
  (c.load s.host s.files a.overrides).1

def rank (config : Option Text) (a : RankArguments) (s : Surroundings) : Except Failure Report :=
  match a.load config s with
  | .error e => configurationReport s e
  | .ok o => do
    let candidates ← a.allCandidates s
    match Matcher.create (some a.pattern) (some o) with
    | .error e => errorReport s "Invalid argument" e.message
    | .ok m =>
      match ((Session.start m).rank false (candidates.map some) (some a.limit) Session.neverCancelled).1 with
      | .error e => errorReport s "Error" e.message
      | .ok rs => rankedReport s a.format a.pattern rs

def breaks (a : BreaksArguments) (s : Surroundings) : Except Failure Report := do
  let humps := if a.characters then characterHumps a.text else wordHumps a.text
  let title ← s.written ("Humps of '".toList ++ a.text ++ ['\''])
  let rows ← humps.mapM fun hump => do
    return [Nat.toDigits 10 hump.start, Nat.toDigits 10 hump.length, ← s.written (hump.textOf a.text)]
  let table : Terminal.Table :=
    { title := title
      columns := [⟨"Start".toList, .right⟩, ⟨"Length".toList, .right⟩, ⟨"Hump".toList, .left⟩]
      rows := rows }
  return (found, table.render)

def perform (g : Global) (s : Surroundings) : Except UsageError (Except Failure Report) := do
  match g.command with
  | .rank =>
    match ← RankArguments.parse g.rest with
    | .help => return .ok (found, [])
    | .perform a =>
      match a.file with
      | some path =>
        if !Files.isPossible path then return .error .path
        else if (candidateContent? s path).isSome then return rank g.config a s
        else throw (.missingFile path)
      | none => return rank g.config a s
  | .breaks =>
    match ← BreaksArguments.parse g.rest with
    | .help => return .ok (found, [])
    | .perform a => return breaks a s

def run (args : List Text) (s : Surroundings) : Except Failure Outcome :=
  match Global.parse args with
  | .error _ => .ok ⟨misused, [], .warning⟩
  | .ok .help => .ok ⟨found, [], .warning⟩
  | .ok (.perform g) =>
    if !g.config.all Files.isPossible then .error .path
    else
      match Logging.setup (g.verbose || Logging.wantsVerbose s.environment) s.environment with
      | .error e => .error (.logging e)
      | .ok logging =>
        match perform g s with
        | .error _ => .ok ⟨misused, [], logging.level⟩
        | .ok (.error e) => .error e
        | .ok (.ok (status, output)) => .ok ⟨status, output, logging.level⟩

-- The paths at which a run with some arguments may look for a file.
def pathsOf (home? : Text → Option Text) (args : List Text) (env : Environment) : List Text :=
  match Global.parse args with
  | .ok (.perform g) =>
    let config := (g.config <|> env.nonempty? Configuration.pathVariable).bind (Files.expandHome? home?)
    let candidates := match RankArguments.parse g.rest with
      | .ok (.perform a) => a.file.toList.filter (· != ['-'])
      | _ => []
    config.toList ++ candidates
  | _ => []

end IdentSearch.CommandLine
