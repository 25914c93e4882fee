import IdentSearch.CommandLine.Run

/-!
The command line program. All that it does is collect what a run can see and write what the run answers.
-/

namespace IdentSearch.Main

def variableNames : List String :=
  [Configuration.pathVariable, "PATMATCH_VERBOSE", "PATMATCH_LOG_LEVEL", "PATMATCH_LOG_FORMAT"]
    ++ OptionName.all.map Configuration.variableFor

def readEnvironment : IO Environment := do
  let mut env : Environment := []
  for name in variableNames do
    if let some value ← IO.getEnv name then
      env := env ++ [(name.toList, value.toList)]
  return env

-- A file with an impossible name stands for what else there is in a directory.
def inDirectory (directory : Text) : Text × Content := (directory ++ ['/', '\x00'], .text [])

-- The directories through which a path leads.
def directoriesOf (path : Text) : List Text :=
  ((List.range path.length).filter fun i => path[i]? == some '/').map path.take

def readFiles (paths : List Text) : IO Files := do
  let mut files : Files := []
  for path in paths do
    try
      let bytes ← IO.FS.readBinFile (String.ofList path)
      let content := match String.fromUTF8? bytes with
        | some t => Content.text t.toList
        | none => .undecodable "the bytes are no text in UTF-8"
      files := files ++ (path, content) :: (directoriesOf path).map inDirectory
    catch e =>
      match e with
      -- The system's number 21 means that there is a directory.
      | .inappropriateType _ 21 _ => files := files ++ [inDirectory path]
      | _ => pure ()
  return files

-- Only the home of the user who runs the program is known.
def homeOf (home : Option String) (user : Text) : Option Text :=
  if user.isEmpty then home.map fun h => if h.isEmpty then ['/'] else h.toList else none

partial def readInput (input : IO.FS.Stream) (taken : String) : IO String := do
  let line ← input.getLine
  if line.isEmpty then return taken else readInput input (taken ++ line)

def brokenOff : UInt32 := 1

end IdentSearch.Main

def main (args : List String) : IO UInt32 := do
  let args := args.map String.toList
  let env ← IdentSearch.Main.readEnvironment
  let home? := IdentSearch.Main.homeOf (← IO.getEnv "HOME")
  let files ← IdentSearch.Main.readFiles (IdentSearch.CommandLine.pathsOf home? args env)
  let input ←
    if args.contains ['-'] || args.contains "-f-".toList || args.contains "--file=-".toList then
      IdentSearch.Main.readInput (← IO.getStdin) ""
    else pure ""
  let host : IdentSearch.Host := ⟨IdentSearch.Yaml.load, home?⟩
  match IdentSearch.CommandLine.run args ⟨host, IdentSearch.Terminal.withoutMarks, env, files, input.toList⟩ with
  | .error failure =>
    IO.eprintln (failure.kind ++ ": " ++ failure.message)
    return IdentSearch.Main.brokenOff
  | .ok outcome =>
    IO.print (String.ofList outcome.output)
    return outcome.exitCode.toUInt32
