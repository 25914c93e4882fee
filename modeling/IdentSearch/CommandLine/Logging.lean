import IdentSearch.Configuration

/-!
How much is logged, and in which format.
-/

namespace IdentSearch.CommandLine

inductive LogLevel
  | debug
  | info
  | warning
  | error
deriving DecidableEq, Repr

namespace LogLevel

def all : List LogLevel := [.debug, .info, .warning, .error]

def name : LogLevel → String
  | debug => "DEBUG"
  | info => "INFO"
  | warning => "WARNING"
  | error => "ERROR"

/--
The capital form of a letter that occurs in the name of a level. Outside ASCII only the dotless small i has
such a form.
-/
def capital (c : Char) : Char :=
  if Text.between 'a' 'z' c then Char.ofNat (c.toNat - 0x20) else if c = 'ı' then 'I' else c

def ofName? (t : Text) : Option LogLevel := all.find? fun l => l.name.toList == t.map capital

end LogLevel

structure Logging where
  level : LogLevel
  format : Text
deriving DecidableEq, Repr

namespace Logging

structure Error where
  format : Text

def Error.message (e : Error) : String :=
  "Invalid format '" ++ String.ofList e.format ++ "' for '%' style"

def defaultFormat : Text := "%(asctime)s - %(name)s - %(levelname)s - %(message)s".toList

def bareFormat : Text := "%(message)s".toList

/-- Whether a text begins with a number or an asterisk, which is then left out. -/
def dropNumber (t : Text) : Text :=
  match t with
  | '*' :: rest => rest
  | t => t.dropWhile fun c => (Text.decimalValue? c).isSome

/--
Whether a character tells how a part of a message is written. Its case does not matter; the dotted and the
dotless i count as an `i`, and the long s as an `s`.
-/
def isConversion (c : Char) : Bool := "diouxefgcrsaDIOUXEFGCRSAİıſ%".toList.contains c

def startsReference (t : Text) : Bool :=
  match t with
  | '%' :: '(' :: t =>
    let isNameChar (c : Char) : Bool := Text.isWordChar c || c = '_'
    let name := t.takeWhile isNameChar
    match t.dropWhile isNameChar with
    | ')' :: t =>
      let t := dropNumber (t.dropWhile fun c => "#0+ -".toList.contains c)
      let t := match t with
        | '.' :: rest => if (dropNumber rest).length < rest.length then dropNumber rest else t
        | t => t
      !name.isEmpty && t.head?.any isConversion
    | _ => false
  | _ => false

def hasReference : Text → Bool
  | [] => false
  | c :: cs => startsReference (c :: cs) || hasReference cs

def wantsVerbose (env : Environment) : Bool :=
  ["true".toList, "1".toList, "yes".toList].contains
    (((env.get? "PATMATCH_VERBOSE").getD []).lowercase)

def setup (verbose : Bool) (env : Environment) : Except Error Logging :=
  let format := (env.get? "PATMATCH_LOG_FORMAT").getD defaultFormat
  let format := if format.isEmpty then bareFormat else format
  if hasReference format then
    .ok ⟨(((env.get? "PATMATCH_LOG_LEVEL").bind LogLevel.ofName?)).getD
      (if verbose then .debug else .warning), format⟩
  else .error ⟨format⟩

end Logging
end IdentSearch.CommandLine
