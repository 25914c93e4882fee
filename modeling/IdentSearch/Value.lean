import IdentSearch.Decimal.Binary
import IdentSearch.Text.Quoted

/-!
Values as they come from a configuration file or a caller, before it is known whether they make sense.
-/

namespace IdentSearch

-- The forms besides the list in which items can be gathered. Those of the sets stand in the order in which they
-- are gone through.
inductive Gathering
  | tuple
  | set
  | frozenSet
deriving DecidableEq, Repr

-- A value that nothing is done with but to show it: a date, bytes, or an object of a caller.
structure Foreign where
  typeName : String
  shown : Text
  isVoid : Bool
deriving DecidableEq, Repr

-- A value whose form is not known in advance. The entries of a map stand in the order in which their keys were
-- first given.
inductive Value
  | null
  | bool (b : Bool)
  | int (n : Int)
  | decimal (d : Decimal)
  | infinity (negative : Bool)
  | undefined
  | text (t : Text)
  | list (items : List Value)
  | gathered (form : Gathering) (items : List Value)
  | map (entries : List (Value × Value))
  | foreign (object : Foreign)
deriving Inhabited

def Gathering.typeName : Gathering → String
  | tuple => "tuple"
  | set => "set"
  | frozenSet => "frozenset"

-- The brackets around the items, of which there are so many.
def Gathering.brackets (form : Gathering) (count : Nat) : Text × Text :=
  match form, count with
  | tuple, 1 => (['('], [',', ')'])
  | tuple, _ => (['('], [')'])
  | set, 0 => ("set(".toList, [')'])
  | set, _ => (['\x7b'], ['\x7d'])
  | frozenSet, 0 => ("frozenset(".toList, [')'])
  | frozenSet, _ => ("frozenset(".toList ++ ['\x7b'], ['\x7d', ')'])

namespace Value

def ofString (s : String) : Value := .text s.toList

def ofDecimal (d : Decimal) : Value :=
  match d.kept? with
  | some d => .decimal d
  | none => .infinity d.negative

def typeName : Value → String
  | null => "NoneType"
  | bool _ => "bool"
  | int _ => "int"
  | decimal _ => "float"
  | infinity _ => "float"
  | undefined => "float"
  | text _ => "str"
  | list _ => "list"
  | gathered form _ => form.typeName
  | map _ => "dict"
  | foreign object => object.typeName

def intText (n : Int) : Text :=
  if n < 0 then '-' :: Nat.toDigits 10 n.natAbs else Nat.toDigits 10 n.natAbs

mutual

def render : Value → Text
  | null => "None".toList
  | bool true => "True".toList
  | bool false => "False".toList
  | int n => intText n
  | decimal d => d.text
  | infinity negative => (if negative then "-inf" else "inf").toList
  | undefined => "nan".toList
  | text t => t.quoted
  | list items => '[' :: (renderItems true items ++ [']'])
  | gathered form items =>
    (form.brackets items.length).1 ++ renderItems true items ++ (form.brackets items.length).2
  | map entries => '\x7b' :: (renderEntries true entries ++ ['\x7d'])
  | foreign object => object.shown

def renderItems (isFirst : Bool) : List Value → Text
  | [] => []
  | v :: vs => (if isFirst then [] else [',', ' ']) ++ render v ++ renderItems false vs

def renderEntries (isFirst : Bool) : List (Value × Value) → Text
  | [] => []
  | (k, v) :: rest =>
    (if isFirst then [] else [',', ' ']) ++ render k ++ [':', ' '] ++ render v ++ renderEntries false rest

end

-- Whether a value counts as missing: no value, falsehood, zero, or one without any items.
def isVoid : Value → Bool
  | null => true
  | bool b => !b
  | int n => n == 0
  | decimal d => d.isZero
  | infinity _ => false
  | undefined => false
  | text t => t.isEmpty
  | list items => items.isEmpty
  | gathered _ items => items.isEmpty
  | map entries => entries.isEmpty
  | foreign object => object.isVoid

def number? : Value → Option Decimal
  | bool b => some ⟨false, if b then 1 else 0, 0⟩
  | int n => some (Decimal.normalize ⟨decide (n < 0), n.natAbs, 0⟩)
  | decimal d => some (Decimal.normalize ⟨d.negative && !d.isZero, d.digits, d.exponent⟩)
  | _ => none

-- Whether two values are the same key of a map. Only values without parts can be keys.
def sameKey (v w : Value) : Bool :=
  match v, w with
  | null, null => true
  | text t, text u => t == u
  | infinity x, infinity y => x == y
  | foreign x, foreign y => x == y
  | v, w =>
    match v.number?, w.number? with
    | some d, some e => d == e
    | _, _ => false

def canBeKey : Value → Bool
  | list _ => false
  | gathered _ _ => false
  | map _ => false
  | _ => true

end Value

abbrev Entries := List (Value × Value)

namespace Entries

def get? (key : Value) (entries : Entries) : Option Value :=
  (entries.find? fun e => e.1.sameKey key).map (·.2)

def getName? (name : String) (entries : Entries) : Option Value := get? (.ofString name) entries

def put (key value : Value) : Entries → Entries
  | [] => [(key, value)]
  | (k, v) :: rest =>
    if k.sameKey key then (k, value) :: rest else (k, v) :: put key value rest

def update (entries newer : Entries) : Entries :=
  newer.foldl (fun acc e => put e.1 e.2 acc) entries

end Entries
end IdentSearch
