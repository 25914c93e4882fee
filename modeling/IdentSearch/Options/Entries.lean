import IdentSearch.Options
import IdentSearch.Text.Lowercase
import IdentSearch.Value

/-!
Options as entries of names and values, in which form they come from files, variables and callers.
-/

namespace IdentSearch

inductive OptionName
  | locale
  | allowFuzzy
  | allowSubstring
  | includeSpans
  | separators
deriving DecidableEq, Repr

namespace OptionName

def all : List OptionName := [.locale, .allowFuzzy, .allowSubstring, .includeSpans, .separators]

def name : OptionName → String
  | locale => "locale"
  | allowFuzzy => "allow_fuzzy_matching"
  | allowSubstring => "allow_simple_substring_matching"
  | includeSpans => "include_matched_spans"
  | separators => "container_split_characters"

def ofText? (t : Text) : Option OptionName := all.find? fun o => o.name.toList == t

def ofKey? : Value → Option OptionName
  | .text t => ofText? t
  | _ => none

end OptionName

namespace Options

inductive Error
  | notMap (value : Value)
  | unknown (names : List Text)
  -- Some keys name no option, and the first of them is not a text, so they cannot be listed.
  | unlistable (key : Value)
  -- Some keys name no option, and two of them have no order, so they cannot be listed.
  | unordered (key other : Value)
  | badLocale (value : Value)
  | badSwitch (option : OptionName) (value : Value)
  | badSeparators (value : Value)
  | badSeparator (value : Value)

def shown (v : Value) : String := String.ofList v.render

-- The name of a class without that of its module.
def plainName (name : String) : String := String.ofList (name.toList.reverse.takeWhile (· != '.')).reverse

def Error.preventsListing : Error → Bool
  | unlistable _ => true
  | unordered _ _ => true
  | _ => false

def Error.message : Error → String
  | notMap v => "Matcher options must be a mapping, got " ++ plainName v.typeName
  | unknown names =>
    "Unknown matcher option(s): " ++ String.ofList ((names.intersperse [',', ' ']).flatten)
  | unlistable k => "sequence item 0: expected str instance, " ++ k.typeName ++ " found"
  | unordered k l =>
    "'<' not supported between instances of '" ++ k.typeName ++ "' and '" ++ l.typeName ++ "'"
  | badLocale v => "Option 'locale' expects a string, got " ++ shown v
  | badSwitch o v => "Option '" ++ o.name ++ "' expects a boolean, got " ++ shown v
  | badSeparators v =>
    "Option 'container_split_characters' expects a string or list, got " ++ shown v
  | badSeparator v => "Container split characters must be single characters, got " ++ shown v

def onWords : List Text := ["true".toList, "1".toList, "yes".toList, "on".toList]

def offWords : List Text := ["false".toList, "0".toList, "no".toList, "off".toList]

def switchWord? (t : Text) : Option Bool :=
  let word := t.trim.lowercase
  if onWords.contains word then some true else if offWords.contains word then some false else none

def readSwitch (o : OptionName) : Value → Except Error Bool
  | .bool b => .ok b
  | .text t =>
    match switchWord? t with
    | some b => .ok b
    | none => .error (.badSwitch o (.text t))
  | v => .error (.badSwitch o v)

def readLocale : Value → Except Error (Option Text)
  | .null => .ok none
  | .text t => .ok (some t)
  | v => .error (.badLocale v)

def readCharacters : List Value → Except Error (List Char)
  | [] => .ok []
  | .text [c] :: vs => (readCharacters vs).map (c :: ·)
  | v :: _ => .error (.badSeparator v)

-- The items from which separators are to be taken. Whether they are characters is not looked at yet.
def readItems : Value → Except Error (Option (List Value))
  | .null => .ok none
  | .text t => .ok (some (t.map fun c => .text [c]))
  | .list items => .ok (some items)
  | .gathered _ items => .ok (some items)
  | v => .error (.badSeparators v)

def checkItems : Option (List Value) → Except Error (Option CharSet)
  | none => .ok none
  | some items => (readCharacters items).map fun cs => some (.ofList cs)

def compareDecimals (d e : Decimal) : Ordering :=
  let low := min d.exponent e.exponent
  let scaled (x : Decimal) : Int :=
    (if x.negative then -1 else 1) * (x.digits * Nat.pow 10 (x.exponent - low).toNat : Nat)
  if scaled d < scaled e then .lt else if scaled e < scaled d then .gt else .eq

-- The order of two keys, if they have one: texts are ordered, and so are numbers. How objects of a class are
-- ordered makes no difference, since of a key that is no text only the class is ever shown.
def compareKeys : Value → Value → Option Ordering
  | .text t, .text u => some (t.compare u)
  | .foreign x, .foreign y => if x.typeName == y.typeName then some .eq else none
  | .infinity x, .infinity y => some (if x == y then .eq else if x then .lt else .gt)
  | .infinity x, w => w.number?.map fun _ => if x then .lt else .gt
  | v, .infinity y => v.number?.map fun _ => if y then .gt else .lt
  | v, w =>
    match v.number?, w.number? with
    | some d, some e => some (compareDecimals d e)
    | _, _ => none

def insertKey (key : Value) : List Value → Except Error (List Value)
  | [] => .ok [key]
  | k :: ks =>
    match compareKeys k key with
    | none => .error (.unordered k key)
    | some .lt => (insertKey key ks).map (k :: ·)
    | some _ => .ok (key :: k :: ks)

def sortKeys : List Value → Except Error (List Value)
  | [] => .ok []
  | k :: ks => do insertKey k (← sortKeys ks)

def unknownError (keys : List Value) : Error :=
  match sortKeys keys with
  | .error e => e
  | .ok sorted =>
    match sorted.find? fun k => !isText k with
    | some k => .unlistable k
    | none => .unknown (sorted.filterMap textOf?)
where
  isText : Value → Bool
    | .text _ => true
    | _ => false
  textOf? : Value → Option Text
    | .text t => some t
    | _ => none

def unknownKeys (entries : Entries) : List Value :=
  (entries.map (·.1)).filter fun k => (OptionName.ofKey? k).isNone

-- What is read from the value of an option before any options are made of it.
def Reading : OptionName → Type
  | .locale => Option Text
  | .allowFuzzy | .allowSubstring | .includeSpans => Bool
  | .separators => Option (List Value)

def readValue : (n : OptionName) → Value → Except Error (Reading n)
  | .locale, v => readLocale v
  | .allowFuzzy, v => readSwitch .allowFuzzy v
  | .allowSubstring, v => readSwitch .allowSubstring v
  | .includeSpans, v => readSwitch .includeSpans v
  | .separators, v => readItems v

def Draft := (n : OptionName) → Reading n

namespace Draft

def initial : Draft
  | .locale => none
  | .allowFuzzy | .allowSubstring | .includeSpans => false
  | .separators => none

def set (d : Draft) (n : OptionName) (r : Reading n) : Draft :=
  fun m => if h : n = m then h ▸ r else d m

-- Reads the values of some options, one after the other. The first that is wrong ends it.
def read (value? : OptionName → Option Value) : List OptionName → Draft → Except Error Draft
  | [], d => .ok d
  | n :: ns, d =>
    match value? n with
    | none => read value? ns d
    | some v => do read value? ns (d.set n (← readValue n v))

-- Only here it shows whether the separators are characters, after all that can be wrong with other options.
def finish (d : Draft) : Except Error Options := do
  return {
    locale := d .locale
    allowFuzzy := d .allowFuzzy
    allowSubstring := d .allowSubstring
    includeSpans := d .includeSpans
    separators := ← checkItems (d .separators) }

end Draft

-- The options that have an entry, in the order of the entries.
def namesOf (entries : Entries) : List OptionName := entries.filterMap fun e => OptionName.ofKey? e.1

-- Unknown names are reported before wrong values.
def ofEntries (entries : Entries) : Except Error Options :=
  let unknown := unknownKeys entries
  if unknown.isEmpty then do
    let draft ← Draft.read (fun n => entries.getName? n.name) (namesOf entries) .initial
    draft.finish
  else .error (unknownError unknown)

def ofValue : Value → Except Error Options
  | .null => .ok {}
  | .map entries => ofEntries entries
  | v => .error (.notMap v)

def toEntries (o : Options) : Entries :=
  let optional (v : Option Value) : Value := v.getD .null
  [ (.ofString OptionName.locale.name, optional (o.locale.map .text)),
    (.ofString OptionName.allowFuzzy.name, .bool o.allowFuzzy),
    (.ofString OptionName.allowSubstring.name, .bool o.allowSubstring),
    (.ofString OptionName.includeSpans.name, .bool o.includeSpans),
    (.ofString OptionName.separators.name,
      optional (o.separators.map fun s => .list (s.toList.map fun c => .text [c]))) ]

end Options
end IdentSearch
