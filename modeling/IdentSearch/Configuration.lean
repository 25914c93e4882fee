import IdentSearch.Options.Entries
import IdentSearch.Yaml.Document

/-!
Options from a configuration file, from the environment and from a caller. The caller's options come first,
then those of the environment, then those of the file, and the defaults last.

The file is read when its options are needed for the first time, and not again until it is forgotten.
-/

namespace IdentSearch

abbrev Environment := List (Text × Text)

namespace Environment

def get? (env : Environment) (name : String) : Option Text := env.lookup name.toList

def nonempty? (env : Environment) (name : String) : Option Text :=
  (env.get? name).filter fun t => !t.isEmpty

end Environment

-- What a configuration relies on: a reader of YAML, and the home directories of the users. The reader is told the
-- name of the file and decodes what that holds only as far as it reads. Without a name the user is meant who runs
-- the program.
structure Host where
  loadYaml : (file : Text) → Content → Except Yaml.Failure Value
  home? : (user : Text) → Option Text

-- A source of options that is a file and an environment. The snapshot holds the options of the file as they were
-- read, if it has been read.
structure Configuration where
  path : Option Text
  environment : Environment
  snapshot : Option Entries := none

namespace Configuration

inductive Error
  | homeless
  | missingFile (path : Text)
  | vanishedFile (path : Text)
  | directory (path : Text)
  | nothingToErase (path : Text)
  | malformed (message : String)
  | raised (kind message : String)
  | rootNotMap (path : Text)
  | sectionNotMap
  | options (e : Options.Error)

def systemMessage (number : Nat) (reason : String) (path : Text) : String :=
  s!"[Errno {number}] {reason}: " ++ String.ofList path.quoted

def missingMessage (path : Text) : String := systemMessage 2 "No such file or directory" path

def Error.message : Error → String
  | homeless => "Could not determine home directory."
  | missingFile path => "Configuration file does not exist: " ++ String.ofList path
  | vanishedFile path => "Error reading configuration file: " ++ missingMessage path
  | directory path =>
    "Error reading configuration file: " ++ systemMessage 21 "Is a directory" path
  | nothingToErase path => missingMessage path
  | malformed message => "Error parsing configuration YAML: " ++ message
  | raised _ message => message
  | rootNotMap path => "Configuration root must be a mapping: " ++ String.ofList path
  | sectionNotMap => "The 'matcher' section must be a mapping"
  | options e => e.message

def pathVariable : String := "PATMATCH_CONFIG"

def variableFor : OptionName → String
  | .locale => "PATMATCH_LOCALE"
  | .allowFuzzy => "PATMATCH_ALLOW_FUZZY"
  | .allowSubstring => "PATMATCH_ALLOW_SUBSTRING"
  | .includeSpans => "PATMATCH_INCLUDE_SPANS"
  | .separators => "PATMATCH_CONTAINER_CHARS"

-- Whether an error is one of the configuration. The others are errors of another class that are not expected.
def Error.isReported : Error → Bool
  | homeless => false
  | nothingToErase _ => false
  | raised _ _ => false
  | options e => !e.preventsListing
  | _ => true

def Error.kind : Error → String
  | homeless => "RuntimeError"
  | nothingToErase _ => "FileNotFoundError"
  | raised kind _ => kind
  | options e => if e.preventsListing then "TypeError" else "ConfigurationError"
  | _ => "ConfigurationError"

/--
The configuration with the file at a path. Without a path it is the one that the environment names. An empty
path means no file. The file must be there.
-/
def create (host : Host) (path : Option Text) (env : Environment) (files : Files) : Except Error Configuration :=
  match path <|> env.nonempty? pathVariable with
  | none => .ok ⟨none, env, none⟩
  | some [] => .ok ⟨none, env, none⟩
  | some path =>
    match Files.expandHome? host.home? path with
    | none => .error .homeless
    | some path =>
      if files.entry path = .missing then .error (.missingFile path) else .ok ⟨some path, env, none⟩

/-- The options that a document gives, in its section for the matcher or else at its root. -/
def section? (path : Text) (document : Value) : Except Error Entries :=
  match if document.isVoid then .map [] else document with
  | .map entries =>
    match Entries.getName? "matcher" entries with
    | none => .ok entries
    | some .null => .ok []
    | some (.map options) => .ok options
    | some _ => .error .sectionNotMap
  | _ => .error (.rootNotMap path)

def readContent (host : Host) (path : Text) (content : Content) : Except Error Entries :=
  match host.loadYaml path content with
  | .ok document => section? path document
  | .error (.malformed message) => .error (.malformed message)
  | .error (.raised kind message) => .error (.raised kind message)

def readFile (host : Host) (path : Text) (files : Files) : Except Error Entries :=
  match files.entry path with
  | .file content => readContent host path content
  | .directory => .error (.directory path)
  | .missing => .error (.vanishedFile path)

-- The options of the file, which is only read if it has not been read before.
def fileOptions (host : Host) (files : Files) (c : Configuration) : Except Error Entries × Configuration :=
  match c.snapshot with
  | some entries => (.ok entries, c)
  | none =>
    match c.path with
    | none => (.ok [], { c with snapshot := some [] })
    | some path =>
      match readFile host path files with
      | .ok entries => (.ok entries, { c with snapshot := some entries })
      | .error e => (.error e, c)

def environmentOptions (env : Environment) : Entries :=
  OptionName.all.filterMap fun o =>
    (env.nonempty? (variableFor o)).map fun t => (.ofString o.name, .text t)

def givenOverrides (overrides : Entries) : Entries :=
  overrides.filter fun e =>
    match e.2 with
    | .null => false
    | _ => true

def combine (file : Entries) (env : Environment) (overrides : Entries) : Entries :=
  (file.update (environmentOptions env)).update (givenOverrides overrides)

def load (host : Host) (files : Files) (overrides : Entries) (c : Configuration)
    : Except Error Options × Configuration :=
  let (file, c) := c.fileOptions host files
  let options := match file with
    | .error e => .error e
    | .ok entries => (Options.ofEntries (combine entries c.environment overrides)).mapError .options
  (options, c)

def forget (c : Configuration) : Configuration := { c with snapshot := none }

end Configuration
end IdentSearch
