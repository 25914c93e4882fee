import IdentSearch.CommandLine.Arguments
import IdentSearch.Text.Number

/-!
The commands and what their arguments ask for.
-/

namespace IdentSearch.CommandLine

inductive Request (α : Type)
  | help
  | perform (a : α)

/-! ## Before the command -/

inductive GlobalOption
  | config
  | verbose
  | help
deriving DecidableEq

def globalSwitches : List (Switch GlobalOption) := [
  ⟨["--config", "-c"], true, .config⟩,
  ⟨["--verbose", "-v"], false, .verbose⟩,
  ⟨["--help"], false, .help⟩]

inductive CommandName
  | rank
  | breaks
deriving DecidableEq, Repr

def CommandName.ofText? (t : Text) : Option CommandName :=
  if t == "match".toList then some .rank else if t == "breaks".toList then some .breaks else none

structure Global where
  config : Option Text
  verbose : Bool
  command : CommandName
  rest : List Text

def lastGiven {ι : Type} [DecidableEq ι] (option : ι) (given : List (Given ι)) : Option Text :=
  (given.reverse.find? fun g => g.1 = option).map (·.2)

def Global.parse (args : List Text) : Except UsageError (Request Global) := do
  let (given, others) ← parseArguments globalSwitches false args
  if (lastGiven .help given).isSome then return .help
  else match others with
    | [] => throw .missingCommand
    | name :: rest =>
      match CommandName.ofText? name with
      | none => throw (.unknownCommand name)
      | some command =>
        return .perform ⟨lastGiven .config given, (lastGiven .verbose given).isSome, command, rest⟩

/-! ## The ranking of candidates -/

inductive RankOption
  | file
  | fuzzy (on : Bool)
  | substring (on : Bool)
  | separators
  | locale
  | limit
  | format
  | help
deriving DecidableEq

def rankSwitches : List (Switch RankOption) := [
  ⟨["--file", "-f"], true, .file⟩,
  ⟨["--fuzzy"], false, .fuzzy true⟩,
  ⟨["--no-fuzzy"], false, .fuzzy false⟩,
  ⟨["--substring"], false, .substring true⟩,
  ⟨["--no-substring"], false, .substring false⟩,
  ⟨["--container-chars"], true, .separators⟩,
  ⟨["--locale"], true, .locale⟩,
  ⟨["--limit", "-l"], true, .limit⟩,
  ⟨["--format", "-o"], true, .format⟩,
  ⟨["--help"], false, .help⟩]

inductive OutputFormat
  | table
  | json
deriving DecidableEq, Repr

def OutputFormat.ofText? (t : Text) : Option OutputFormat :=
  if t == "table".toList then some .table else if t == "json".toList then some .json else none

structure RankArguments where
  pattern : Text
  candidates : List Text
  -- The path of a file with more of them; a hyphen stands for the standard input.
  file : Option Text
  fuzzy : Option Bool
  substring : Option Bool
  separators : Option Text
  locale : Option Text
  limit : Int
  format : OutputFormat

def lastSwitch (state : RankOption → Option Bool) (given : List (Given RankOption)) : Option Bool :=
  given.reverse.findSome? fun g => state g.1

def defaultLimit : Int := 20

def RankArguments.parse (args : List Text) : Except UsageError (Request RankArguments) := do
  let (given, others) ← parseArguments rankSwitches true args
  if (lastGiven .help given).isSome then return .help
  else match others with
    | [] => throw .missingArgument
    | pattern :: candidates =>
      let limit ← match lastGiven .limit given with
        | none => pure defaultLimit
        | some t => match t.toInt? with
          | some n => pure n
          | none => throw (.badNumber t)
      let format ← match lastGiven .format given with
        | none => pure OutputFormat.table
        | some t => match OutputFormat.ofText? t with
          | some f => pure f
          | none => throw (.badChoice t)
      let fuzzy : RankOption → Option Bool
        | .fuzzy on => some on
        | _ => none
      let substring : RankOption → Option Bool
        | .substring on => some on
        | _ => none
      return .perform ⟨pattern, candidates, lastGiven .file given, lastSwitch fuzzy given,
        lastSwitch substring given, lastGiven .separators given, lastGiven .locale given, limit, format⟩

/-! ## The humps of a text -/

inductive BreaksOption
  | characters
  | help
deriving DecidableEq

def breaksSwitches : List (Switch BreaksOption) := [
  ⟨["--characters"], false, .characters⟩,
  ⟨["--help"], false, .help⟩]

structure BreaksArguments where
  text : Text
  characters : Bool

def BreaksArguments.parse (args : List Text) : Except UsageError (Request BreaksArguments) := do
  let (given, others) ← parseArguments breaksSwitches true args
  if (lastGiven .help given).isSome then return .help
  else match others with
    | [] => throw .missingArgument
    | [text] => return .perform ⟨text, (lastGiven .characters given).isSome⟩
    | _ => throw .extraArguments

end IdentSearch.CommandLine
