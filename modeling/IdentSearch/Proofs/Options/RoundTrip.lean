import IdentSearch.Proofs.Options.Reading

/-!
Options that are listed as entries and read again. Nothing is lost on the way, and of the values that may be
given for the separators all those mean the same that name the same characters.
-/

namespace IdentSearch.Options

/-! ### Options as entries -/

def value (o : Options) : OptionName → Value
  | .locale => (o.locale.map .text).getD .null
  | .allowFuzzy => .bool o.allowFuzzy
  | .allowSubstring => .bool o.allowSubstring
  | .includeSpans => .bool o.includeSpans
  | .separators => (o.separators.map fun s => .list (s.toList.map fun c => .text [c])).getD .null

theorem toEntries_eq_listed (o : Options) : o.toEntries = OptionName.listed fun n => some (o.value n) := by
  rfl

theorem unknownKeys_listed (value? : OptionName → Option Value)
    : unknownKeys (OptionName.listed value?) = [] := by
  apply List.eq_nil_iff_forall_not_mem.mpr
  intro k hk
  rcases mem_unknownKeys.mp hk with ⟨hkey, hunknown⟩
  rcases List.mem_map.mp hkey with ⟨e, he, rfl⟩
  rcases OptionName.mem_listed.mp he with ⟨n, v, _, rfl⟩
  apply hunknown n
  rfl

theorem follows_value (o : Options) : o.Follows fun n => some (o.value n) := by
  rcases o with ⟨locale, fuzzy, substring, spans, separators⟩
  constructor
  . cases locale with
    | none => exact .none
    | some t => exact .some t
  . exact .bool fuzzy
  . exact .bool substring
  . exact .bool spans
  . cases separators with
    | none => exact .none
    | some s => exact .list fun _ => Iff.rfl

theorem ofEntries_toEntries (o : Options) : ofEntries o.toEntries = .ok o := by
  rw [toEntries_eq_listed, ofEntries_eq_ok]
  simp only [unknownKeys_listed, OptionName.getName?_listed, true_and]
  apply follows_value

/-! ### Forms of the separators -/

inductive Names : Value → Char → Prop
  | text {t : Text} {c : Char} (h : c ∈ t) : Names (.text t) c
  | list {items : List Value} {c : Char} (h : .text [c] ∈ items) : Names (.list items) c
  | gathered {form : Gathering} {items : List Value} {c : Char} (h : .text [c] ∈ items)
    : Names (.gathered form items) c

-- Two values name the same separators, if they give separators at all.
structure NameSame (v w : Value) : Prop where
  null_iff : v = .null ↔ w = .null
  names_iff : ∀ c, Names v c ↔ Names w c

variable {v w : Value} {a b : Option CharSet} {es fs : Entries} {o p : Options}

theorem IsSeparators.eq_none_iff (h : IsSeparators v a) : a = Option.none ↔ v = .null := by
  cases h with
  | none => simp
  | text | list | gathered => simp

theorem IsSeparators.mem_iff {s : CharSet} {c : Char} (h : IsSeparators v (some s)) : c ∈ s ↔ Names v c := by
  cases h with
  | text hmem =>
    rw [hmem]
    constructor
    . exact .text
    . rintro ⟨hc⟩
      exact hc
  | list hmem =>
    rw [hmem]
    constructor
    . intro hc
      apply Names.list
      exact List.mem_map_of_mem hc
    . rintro (_ | hc)
      simpa using hc
  | gathered hmem =>
    rw [hmem]
    constructor
    . intro hc
      apply Names.gathered
      exact List.mem_map_of_mem hc
    . rintro (_ | _ | hc)
      simpa using hc

theorem IsSeparators.eq_iff (hv : IsSeparators v a) (hw : IsSeparators w b) : a = b ↔ NameSame v w := by
  constructor
  . rintro rfl
    constructor
    . rw [← hv.eq_none_iff, ← hw.eq_none_iff]
    . intro c
      cases a with
      | none =>
        rw [hv.eq_none_iff.mp rfl, hw.eq_none_iff.mp rfl]
      | some s => rw [← hv.mem_iff, ← hw.mem_iff]
  . rintro ⟨hnull, hnames⟩
    rw [← hv.eq_none_iff, ← hw.eq_none_iff] at hnull
    cases a with
    | none => exact (hnull.mp rfl).symm
    | some s =>
      cases b with
      | none => exact hnull.mpr rfl
      | some s' =>
        congr 1
        apply CharSet.ext_mem
        intro c
        rw [hv.mem_iff, hw.mem_iff, hnames]

/-! ### Reading again -/

theorem Given.unique {α : Type} {Says : Value → α → Prop} {read : Value → Except Error α}
    (hread : ∀ {v x}, read v = .ok x ↔ Says v x) {default x y : α} {v : Option Value}
    (hx : Given Says default v x) (hy : Given Says default v y) : x = y := by
  cases v with
  | none => exact hx.trans hy.symm
  | some w =>
    have hok := hread.mpr hx
    rw [hread.mpr hy] at hok
    cases hok
    rfl

theorem Follows.eq_iff {value? other? : OptionName → Option Value} (ho : o.Follows value?)
    (hp : p.Follows other?) (hsame : ∀ n, n ≠ .separators → value? n = other? n)
    (hv : value? .separators = some v) (hw : other? .separators = some w) : o = p ↔ NameSame v w := by
  rcases ho with ⟨hlocale, hfuzzy, hsubstring, hspans, hseparators⟩
  rw [hsame _ (by decide)] at hlocale hfuzzy hsubstring hspans
  have hlocale := hlocale.unique readLocale_eq_ok hp.locale
  have hfuzzy := hfuzzy.unique (readSwitch_eq_ok (o := .allowFuzzy)) hp.allowFuzzy
  have hsubstring := hsubstring.unique (readSwitch_eq_ok (o := .allowSubstring)) hp.allowSubstring
  have hspans := hspans.unique (readSwitch_eq_ok (o := .includeSpans)) hp.includeSpans
  have hothers := hp.separators
  rw [hv] at hseparators
  rw [hw] at hothers
  rw [← IsSeparators.eq_iff hseparators hothers]
  cases o
  cases p
  simp_all

theorem ofValue_toEntries
    : (∀ o : Options, ofValue (.map o.toEntries) = .ok o) ∧
        (∀ es : Entries, (∃ o, ofValue (.map es) = .ok o)
          ↔ unknownKeys es = [] ∧ ∀ (n : OptionName) v, es.getName? n.name = some v → Accepts n v) ∧
        (∀ data o, ofValue data = .ok o → ofValue (.map o.toEntries) = .ok o) ∧
        ∀ (es fs : Entries) (o p : Options) (v w : Value),
          ofValue (.map es) = .ok o → ofValue (.map fs) = .ok p →
            (∀ n : OptionName, n ≠ .separators → es.getName? n.name = fs.getName? n.name) →
              es.getName? OptionName.separators.name = some v →
                fs.getName? OptionName.separators.name = some w → (o = p ↔ NameSame v w) := by
  refine ⟨ofEntries_toEntries, ?_, ?_, ?_⟩
  . intro es
    simp only [ofValue, ofEntries_eq_ok, exists_and_left, exists_follows_iff]
  . intro data o _
    apply ofEntries_toEntries
  . intro es fs o p v w hes hfs hsame hv hw
    apply (ofEntries_eq_ok.mp hes).2.eq_iff (ofEntries_eq_ok.mp hfs).2 hsame hv hw

-- Separators as a text with one of them twice, and as a list in another order.
theorem ofValue_toEntries_slash
    : let given (separators : Value) : OptionName → Option Value := fun n =>
        if n = .allowFuzzy then some (.ofString " YES ") else if n = .separators then some separators else none
      let v := .ofString "./."
      let w := .list [.ofString "/", .ofString "."]
      let o : Options := { allowFuzzy := true, separators := some (.ofList ['/', '.']) }
      ofValue (.map (OptionName.listed (given v))) = .ok o ∧
        ofValue (.map (OptionName.listed (given w))) = .ok o ∧
        ofValue (.map o.toEntries) = .ok o ∧ NameSame v w := by
  intro given v w o
  have hv : ofValue (.map (OptionName.listed (given v))) = .ok o := rfl
  have hw : ofValue (.map (OptionName.listed (given w))) = .ok o := rfl
  rcases ofValue_toEntries with ⟨_, _, hagain, hforms⟩
  refine ⟨hv, hw, hagain _ o hv, ?_⟩
  apply (hforms _ _ o o v w hv hw _ _ _).mp rfl
  . intro n hn
    simp [OptionName.getName?_listed, given, hn]
  . apply OptionName.getName?_listed
  . apply OptionName.getName?_listed

end IdentSearch.Options
