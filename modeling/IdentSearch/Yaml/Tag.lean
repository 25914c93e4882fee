import IdentSearch.Yaml.Scalar

/-!
The tags of values, which name their forms. A value has a tag by itself, and one can be written before it.
-/

namespace IdentSearch.Yaml

def commonTags : Text := "tag:yaml.org,2002:".toList

def fullTag? (handle : Option Text) (suffix : Text) : Option Text :=
  match handle with
  | none => some suffix
  | some h =>
    if h == ['!'] then some (h ++ suffix) else if h == ['!', '!'] then some (commonTags ++ suffix) else none

def tagOf : Value → String
  | .null => "null"
  | .bool _ => "bool"
  | .int _ => "int"
  | .decimal _ => "float"
  | .infinity _ => "float"
  | .undefined => "float"
  | .text _ => "str"
  | .list _ => "seq"
  | .gathered _ _ => "seq"
  | .map _ => "map"
  | .foreign _ => "timestamp"

def form : Value → String
  | .list _ => "sequence"
  | .gathered _ _ => "sequence"
  | .map _ => "mapping"
  | _ => "scalar"

def mergeSpelling : Text := "<<".toList

def valueSpelling : Text := ['=']

def keyTag? (spelling : Text) : Option Text :=
  if spelling == mergeSpelling then some (commonTags ++ "merge".toList)
  else if spelling == valueSpelling then some (commonTags ++ "value".toList)
  else none

def scalarValue (tag : Option Text) (text : Text) (plain : Bool) : Except String Value :=
  match tag with
  | none => if plain then resolve text else .ok (.text text)
  | some tag => if tag == commonTags ++ "str".toList then .ok (.text text) else resolve text

end IdentSearch.Yaml
