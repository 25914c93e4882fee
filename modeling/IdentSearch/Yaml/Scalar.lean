import IdentSearch.Yaml.Timestamp

/-!
The values that the scalars of a YAML text stand for. The spelling of a plain one selects its value.
-/

namespace IdentSearch.Yaml

def trueWords : List Text :=
  ["yes", "Yes", "YES", "true", "True", "TRUE", "on", "On", "ON"].map String.toList

def falseWords : List Text :=
  ["no", "No", "NO", "false", "False", "FALSE", "off", "Off", "OFF"].map String.toList

def nullWords : List Text := ["", "~", "null", "Null", "NULL"].map String.toList

def infinityWords : List Text := [".inf", ".Inf", ".INF"].map String.toList

def undefinedWords : List Text := [".nan", ".NaN", ".NAN"].map String.toList

-- The value of a plain scalar, or what is wrong with it if it is spelled like a value and is none.
def resolve (t : Text) : Except String Value :=
  if nullWords.contains t then .ok .null
  else if trueWords.contains t then .ok (.bool true)
  else if falseWords.contains t then .ok (.bool false)
  else if infinityWords.contains (takeSign t).2 then .ok (.infinity (takeSign t).1)
  else if undefinedWords.contains t then .ok .undefined
  else match decimal? t with
    | some d => .ok (.ofDecimal d)
    | none =>
      let (negative, body) := takeSign t
      match numberFault? body, natural? body, timestamp? t with
      | some fault, _, _ => .error fault
      | none, some n, _ => .ok (.int (if negative then -(n : Int) else n))
      | none, none, some timestamp => timestamp
      | none, none, none => .ok (.text t)

end IdentSearch.Yaml
