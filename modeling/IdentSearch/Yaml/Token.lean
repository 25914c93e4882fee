import IdentSearch.Text.Basic

/-!
The tokens of a YAML text. Some stand for characters of the text, and some for the structure that its
indentation has.
-/

namespace IdentSearch.Yaml

inductive Token
  | directive (version : Option Nat)
  | documentStart
  | documentEnd
  | textEnd
  | blockListStart
  | blockMapStart
  | blockEnd
  | listOpen
  | mapOpen
  | listClose
  | mapClose
  | key
  | value
  | item
  | comma
  | reference (name : Text)
  | anchor (name : Text)
  | tag (handle : Option Text) (suffix : Text)
  | scalar (text : Text) (plain : Bool)
deriving DecidableEq, Repr

def Token.name : Token → String
  | directive _ => "<directive>"
  | documentStart => "<document start>"
  | documentEnd => "<document end>"
  | textEnd => "<stream end>"
  | blockListStart => "<block sequence start>"
  | blockMapStart => "<block mapping start>"
  | blockEnd => "<block end>"
  | listOpen => "["
  | mapOpen => "\x7b"
  | listClose => "]"
  | mapClose => "\x7d"
  | key => "?"
  | value => ":"
  | item => "-"
  | comma => ","
  | reference _ => "<alias>"
  | anchor _ => "<anchor>"
  | tag _ _ => "<tag>"
  | scalar _ _ => "<scalar>"

end IdentSearch.Yaml
