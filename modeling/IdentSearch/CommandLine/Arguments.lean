import IdentSearch.Text.Basic

/-!
The arguments of a command: options with their values, and the arguments that are none. Long options are
written `--name value` or `--name=value`, short ones `-n value` or `-nvalue`, and short ones without values
can share a hyphen. Behind `--` there are no more options.
-/

namespace IdentSearch.CommandLine

inductive UsageError
  | unknownOption (name : Text)
  | missingValue (name : Text)
  | unexpectedValue (name : Text)
  | badNumber (value : Text)
  | badChoice (value : Text)
  | missingFile (path : Text)
  | missingArgument
  | extraArguments
  | missingCommand
  | unknownCommand (name : Text)
deriving DecidableEq, Repr

structure Switch (ι : Type) where
  names : List String
  takesValue : Bool
  option : ι

abbrev Given (ι : Type) := ι × Text

namespace Switch
variable {ι : Type}

def find? (switches : List (Switch ι)) (name : Text) : Option (Switch ι) :=
  switches.find? fun s => s.names.any fun n => n.toList == name

def isShort (name : Text) : Bool := name.length == 2

def splitValue (arg : Text) : Text × Option Text :=
  match arg.dropWhile (· != '=') with
  | [] => (arg, none)
  | _ :: value => (arg.takeWhile (· != '='), some value)

/--
The options that the characters behind a hyphen stand for. The second part is an option that still waits for
its value.
-/
def readShort (switches : List (Switch ι)) : Text → Except UsageError (List (Given ι) × Option ι)
  | [] => .ok ([], none)
  | c :: cs =>
    match find? switches ['-', c] with
    | none => .error (.unknownOption ['-', c])
    | some s =>
      if s.takesValue then
        if cs.isEmpty then .ok ([], some s.option) else .ok ([(s.option, cs)], none)
      else (readShort switches cs).map fun (given, waiting) => ((s.option, []) :: given, waiting)

def read (switches : List (Switch ι)) (arg : Text) : Except UsageError (List (Given ι) × Option ι) :=
  let (name, value) := splitValue arg
  match if isShort name then none else find? switches name with
  | some s =>
    match s.takesValue, value with
    | true, some v => .ok ([(s.option, v)], none)
    | true, none => .ok ([], some s.option)
    | false, some _ => .error (.unexpectedValue name)
    | false, none => .ok ([(s.option, [])], none)
  | none =>
    if arg.take 2 == ['-', '-'] then .error (.unknownOption name) else readShort switches (arg.drop 1)

end Switch

def looksLikeOption (arg : Text) : Bool := arg.head? == some '-' && decide (1 < arg.length)

/--
The options and the other arguments. Unless options are `interspersed` they end at the first argument that is
none.
-/
def parseArguments {ι : Type} (switches : List (Switch ι)) (interspersed : Bool)
    : List Text → Except UsageError (List (Given ι) × List Text)
  | [] => .ok ([], [])
  | arg :: rest =>
    if arg == ['-', '-'] then .ok ([], rest)
    else if looksLikeOption arg then
      match Switch.read switches arg, rest with
      | .error e, _ => .error e
      | .ok (given, none), rest =>
        (parseArguments switches interspersed rest).map fun (more, others) => (given ++ more, others)
      | .ok (_, some _), [] => .error (.missingValue arg)
      | .ok (given, some o), value :: rest =>
        (parseArguments switches interspersed rest).map fun (more, others) =>
          (given ++ (o, value) :: more, others)
    else if interspersed then
      (parseArguments switches interspersed rest).map fun (given, others) => (given, arg :: others)
    else .ok ([], arg :: rest)

end IdentSearch.CommandLine
