import IdentSearch.Proofs.Options.Unknown

/-!
What the values of options say, and which options a list of entries gives: each is what the value under its
name says, or its default.
-/

namespace IdentSearch

namespace CharSet

theorem ext_mem {s s' : CharSet} (h : ∀ c, c ∈ s ↔ c ∈ s') : s = s' := by
  have hirrefl : Std.Irrefl fun c d : Char => c.toNat < d.toNat := ⟨fun _ => Nat.lt_irrefl _⟩
  have hantisymm : Std.Antisymm fun c d : Char => c.toNat < d.toNat := by
    constructor
    intro c d hcd hdc
    omega
  have hlist := s.sorted.eq_of_mem_iff s'.sorted h
  cases s
  cases s'
  cases hlist
  rfl

theorem ofList_eq_iff {cs : List Char} {s : CharSet} : ofList cs = s ↔ ∀ c, c ∈ s ↔ c ∈ cs := by
  constructor
  . rintro rfl c
    exact mem_ofList
  . intro h
    apply ext_mem
    intro c
    rw [mem_ofList, h]

end CharSet

namespace Options

/-! ### What values say -/

-- The value says whether something is on or off. A text may do so in any case and between white space.
inductive IsSwitch : Value → Bool → Prop
  | bool (b : Bool) : IsSwitch (.bool b) b
  | on {t : Text} (h : t.trim.lowercase ∈ onWords) : IsSwitch (.text t) true
  | off {t : Text} (h : t.trim.lowercase ∈ offWords) : IsSwitch (.text t) false

inductive IsLocale : Value → Option Text → Prop
  | none : IsLocale .null none
  | some (t : Text) : IsLocale (.text t) (some t)

-- The value says which characters separate container parts, in whichever order and however often.
inductive IsSeparators : Value → Option CharSet → Prop
  | none : IsSeparators .null none
  | text {t : Text} {s : CharSet} (h : ∀ c, c ∈ s ↔ c ∈ t) : IsSeparators (.text t) (some s)
  | list {cs : List Char} {s : CharSet} (h : ∀ c, c ∈ s ↔ c ∈ cs)
    : IsSeparators (.list (cs.map fun c => .text [c])) (some s)
  | gathered {form : Gathering} {cs : List Char} {s : CharSet} (h : ∀ c, c ∈ s ↔ c ∈ cs)
    : IsSeparators (.gathered form (cs.map fun c => .text [c])) (some s)

theorem switchWord?_eq_some {t : Text} {b : Bool} : switchWord? t = some b ↔ IsSwitch (.text t) b := by
  have hdisjoint : ∀ w ∈ onWords, w ∉ offWords := by decide
  unfold switchWord?
  dsimp only
  split
  . next hon =>
    rw [List.contains_iff_mem] at hon
    constructor
    . intro h
      cases h
      exact .on hon
    . rintro (_ | _ | hoff)
      . rfl
      . exact absurd hoff (hdisjoint _ hon)
  . next hon =>
    rw [List.contains_iff_mem] at hon
    split
    . next hoff =>
      rw [List.contains_iff_mem] at hoff
      constructor
      . intro h
        cases h
        exact .off hoff
      . rintro (_ | hon' | _)
        . exact absurd hon' hon
        . rfl
    . next hoff =>
      rw [List.contains_iff_mem] at hoff
      constructor
      . intro h
        cases h
      . rintro (_ | hon' | hoff')
        . exact absurd hon' hon
        . exact absurd hoff' hoff

theorem readSwitch_eq_ok {o : OptionName} {v : Value} {b : Bool} : readSwitch o v = .ok b ↔ IsSwitch v b := by
  cases v with
  | bool =>
    constructor
    . rintro ⟨⟩
      exact .bool _
    . rintro ⟨⟩
      rfl
  | text t =>
    rw [← switchWord?_eq_some, readSwitch]
    cases switchWord? t with
    | none => simp
    | some => simp
  | _ =>
    constructor
    . rintro ⟨⟩
    . rintro ⟨⟩

theorem readLocale_eq_ok {v : Value} {l : Option Text} : readLocale v = .ok l ↔ IsLocale v l := by
  cases v with
  | null =>
    constructor
    . rintro ⟨⟩
      exact .none
    . rintro ⟨⟩
      rfl
  | text =>
    constructor
    . rintro ⟨⟩
      exact .some _
    . rintro ⟨⟩
      rfl
  | _ =>
    constructor
    . rintro ⟨⟩
    . rintro ⟨⟩

theorem readCharacters_eq_ok {vs : List Value} {cs : List Char}
    : readCharacters vs = .ok cs ↔ vs = cs.map fun c => .text [c] := by
  fun_induction readCharacters vs generalizing cs with
  | case1 =>
    cases cs with
    | nil => simp
    | cons => simp
  | case2 c vs ih =>
    rw [Except.map_eq_ok]
    constructor
    . rintro ⟨ds, hds, rfl⟩
      rw [List.map_cons, ← ih.mp hds]
    . intro h
      cases cs with
      | nil => cases h
      | cons d ds =>
        rw [List.map_cons, List.cons.injEq] at h
        cases h.1
        exact ⟨ds, ih.mpr h.2, rfl⟩
  | case3 v vs hother =>
    constructor
    . rintro ⟨⟩
    . intro h
      cases cs with
      | nil => cases h
      | cons d ds =>
        rw [List.map_cons, List.cons.injEq] at h
        exact absurd h.1 (hother d)

theorem checkItems_eq_ok {items : List Value} {s : Option CharSet}
    : checkItems (some items) = .ok s
        ↔
      ∃ cs : List Char, items = cs.map (fun c => .text [c]) ∧ some (.ofList cs) = s := by
  simp only [checkItems, Except.map_eq_ok, readCharacters_eq_ok]

theorem readSeparators_eq_ok {v : Value} {s : Option CharSet}
    : (∃ items, readItems v = .ok items ∧ checkItems items = .ok s) ↔ IsSeparators v s := by
  cases v with
  | null =>
    constructor
    . rintro ⟨_, ⟨⟩, ⟨⟩⟩
      exact .none
    . rintro ⟨⟩
      exact ⟨_, rfl, rfl⟩
  | text t =>
    constructor
    . rintro ⟨_, ⟨⟩, hcheck⟩
      rcases checkItems_eq_ok.mp hcheck with ⟨cs, heq, rfl⟩
      have hinjective : Function.Injective fun c : Char => Value.text [c] := by
        intro c d hcd
        cases hcd
        rfl
      rw [List.map_injective_iff.mpr hinjective heq]
      exact .text fun _ => CharSet.mem_ofList
    . rintro (_ | h)
      exact ⟨_, rfl, checkItems_eq_ok.mpr ⟨t, rfl, congrArg some (CharSet.ofList_eq_iff.mpr h)⟩⟩
  | list items =>
    constructor
    . rintro ⟨_, ⟨⟩, hcheck⟩
      rcases checkItems_eq_ok.mp hcheck with ⟨cs, rfl, rfl⟩
      exact .list fun _ => CharSet.mem_ofList
    . rintro (_ | _ | h)
      exact ⟨_, rfl, checkItems_eq_ok.mpr ⟨_, rfl, congrArg some (CharSet.ofList_eq_iff.mpr h)⟩⟩
  | gathered form items =>
    constructor
    . rintro ⟨_, ⟨⟩, hcheck⟩
      rcases checkItems_eq_ok.mp hcheck with ⟨cs, rfl, rfl⟩
      exact .gathered fun _ => CharSet.mem_ofList
    . rintro (_ | _ | _ | h)
      exact ⟨_, rfl, checkItems_eq_ok.mpr ⟨_, rfl, congrArg some (CharSet.ofList_eq_iff.mpr h)⟩⟩
  | _ =>
    constructor
    . rintro ⟨_, ⟨⟩, _⟩
    . rintro ⟨⟩

/-! ### The options of entries -/

/-- What a value says if there is one, and the default if there is none. -/
def Given {α : Type} (Says : Value → α → Prop) (default : α) (v : Option Value) (x : α) : Prop :=
  match v with
  | none => x = default
  | some v => Says v x

theorem Given.imp {α : Type} {Says Says' : Value → α → Prop} {default x : α} {v : Option Value}
    (h : ∀ v, Says v x → Says' v x) (hx : Given Says default v x) : Given Says' default v x := by
  cases v with
  | none => exact hx
  | some v => exact h v hx

structure Follows (value? : OptionName → Option Value) (o : Options) : Prop where
  locale : Given IsLocale none (value? .locale) o.locale
  allowFuzzy : Given IsSwitch false (value? .allowFuzzy) o.allowFuzzy
  allowSubstring : Given IsSwitch false (value? .allowSubstring) o.allowSubstring
  includeSpans : Given IsSwitch false (value? .includeSpans) o.includeSpans
  separators : Given IsSeparators none (value? .separators) o.separators

def Accepts (n : OptionName) (v : Value) : Prop :=
  match n with
  | .locale => ∃ l, IsLocale v l
  | .separators => ∃ s, IsSeparators v s
  | .allowFuzzy | .allowSubstring | .includeSpans => ∃ b, IsSwitch v b

variable {es : Entries} {o : Options}

namespace Draft

variable {d d' : Draft} {m n : OptionName} {r : Reading n}

theorem set_self : d.set n r n = r := by
  rw [set, dif_pos rfl]

theorem set_other (h : n ≠ m) : d.set n r m = d m := by
  rw [set, dif_neg h]

-- Each option with a name in the list is read from its value, if it has one, and the others stay as they are.
def Reads (value? : OptionName → Option Value) (ns : List OptionName) (d d' : Draft) : Prop :=
  ∀ n, Given (fun v r => readValue n v = .ok r) (d n) (if n ∈ ns then value? n else none) (d' n)

theorem reads_nil {value? : OptionName → Option Value} : Reads value? [] d d' ↔ d' = d := by
  constructor
  . intro hall
    exact funext hall
  . rintro rfl n
    rfl

theorem reads_cons_none {value? : OptionName → Option Value} {ns : List OptionName} (hm : value? m = none)
    : Reads value? (m :: ns) d d' ↔ Reads value? ns d d' := by
  apply forall_congr'
  intro n
  by_cases heq : n = m
  . subst heq
    simp [hm]
  . simp [heq]

-- An option that is read twice is read from the same value, so the first reading does not matter.
theorem reads_cons_some {value? : OptionName → Option Value} {ns : List OptionName} {w : Value}
    (hm : value? m = some w)
    : Reads value? (m :: ns) d d' ↔ ∃ r, readValue m w = .ok r ∧ Reads value? ns (d.set m r) d' := by
  constructor
  . intro hall
    have hread := hall m
    rw [if_pos List.mem_cons_self, hm] at hread
    refine ⟨d' m, hread, ?_⟩
    intro n
    have hn := hall n
    by_cases heq : n = m
    . subst heq
      rw [set_self]
      by_cases hmem : n ∈ ns
      . simpa [hmem, hm, Given] using hn
      . rw [if_neg hmem]
        rfl
    . rw [set_other (Ne.symm heq)]
      simpa [heq] using hn
  . rintro ⟨r, hr, hrest⟩ n
    have hn := hrest n
    by_cases heq : n = m
    . subst heq
      by_cases hmem : n ∈ ns
      . simpa [hmem, hm, Given] using hn
      . rw [if_neg hmem] at hn
        rw [if_pos List.mem_cons_self, hm, hn.trans set_self]
        exact hr
    . rw [set_other (Ne.symm heq)] at hn
      simpa [heq] using hn

theorem read_eq_ok {value? : OptionName → Option Value} {ns : List OptionName}
    : d.read value? ns = .ok d' ↔ Reads value? ns d d' := by
  induction ns generalizing d with
  | nil => rw [read, Except.ok.injEq, reads_nil, eq_comm]
  | cons m ns ih =>
    rw [read]
    cases hm : value? m with
    | none =>
      dsimp only
      rw [ih, reads_cons_none hm]
    | some w =>
      dsimp only
      rw [Except.bind_eq_ok, reads_cons_some hm]
      simp only [ih]

-- One of the options has a value that is wrong in this way, and the values of those before it are right.
inductive FailsFirst (value? : OptionName → Option Value) (e : Error) : List OptionName → Prop
  | here {n : OptionName} {v : Value} {ns : List OptionName} (hv : value? n = some v)
      (hwrong : readValue n v = .error e)
    : FailsFirst value? e (n :: ns)
  | later {n : OptionName} {ns : List OptionName} (hright : ∀ v, value? n = some v → ∃ r, readValue n v = .ok r)
      (h : FailsFirst value? e ns)
    : FailsFirst value? e (n :: ns)

theorem failsFirst_cons_of_right {value? : OptionName → Option Value} {ns : List OptionName} {e : Error}
    (hright : ∀ v, value? m = some v → ∃ r, readValue m v = .ok r)
    : FailsFirst value? e (m :: ns) ↔ FailsFirst value? e ns := by
  constructor
  . rintro (⟨hv, hwrong⟩ | ⟨-, h⟩)
    . rcases hright _ hv with ⟨r, hr⟩
      cases hr.symm.trans hwrong
    . exact h
  . exact .later hright

theorem failsFirst_cons_of_wrong {value? : OptionName → Option Value} {ns : List OptionName} {w : Value}
    {e e' : Error} (hm : value? m = some w) (hwrong : readValue m w = .error e')
    : FailsFirst value? e (m :: ns) ↔ e' = e := by
  constructor
  . rintro (⟨hv, hfails⟩ | ⟨hright, -⟩)
    . cases hm.symm.trans hv
      exact Except.error.inj (hwrong.symm.trans hfails)
    . rcases hright w hm with ⟨r, hr⟩
      cases hr.symm.trans hwrong
  . rintro rfl
    exact .here hm hwrong

theorem read_eq_error {value? : OptionName → Option Value} {ns : List OptionName} {e : Error}
    : d.read value? ns = .error e ↔ FailsFirst value? e ns := by
  induction ns generalizing d with
  | nil =>
    constructor
    . rintro ⟨⟩
    . rintro ⟨⟩
  | cons m ns ih =>
    rw [read]
    cases hm : value? m with
    | none =>
      dsimp only
      rw [ih, failsFirst_cons_of_right]
      intro v hv
      cases hm.symm.trans hv
    | some w =>
      dsimp only
      cases hw : readValue m w with
      | error e' =>
        rw [failsFirst_cons_of_wrong hm hw]
        exact ⟨Except.error.inj, congrArg Except.error⟩
      | ok r =>
        change Draft.read value? ns (d.set m r) = .error e ↔ _
        rw [ih, failsFirst_cons_of_right]
        intro v hv
        cases hm.symm.trans hv
        exact ⟨r, hw⟩

theorem finish_eq_ok
    : d.finish = .ok o
        ↔
      o.locale = d .locale ∧ o.allowFuzzy = d .allowFuzzy ∧ o.allowSubstring = d .allowSubstring ∧
        o.includeSpans = d .includeSpans ∧ checkItems (d .separators) = .ok o.separators := by
  unfold finish
  rw [Except.bind_eq_ok]
  constructor
  . rintro ⟨s, hs, ⟨⟩⟩
    exact ⟨rfl, rfl, rfl, rfl, hs⟩
  . rcases o with ⟨l, f, b, i, s⟩
    rintro ⟨rfl, rfl, rfl, rfl, hs⟩
    exact ⟨s, hs, rfl⟩

-- The draft that gives these options, with the items of their separators.
def ofOptions (o : Options) (items : Option (List Value)) : Draft
  | .locale => o.locale
  | .allowFuzzy => o.allowFuzzy
  | .allowSubstring => o.allowSubstring
  | .includeSpans => o.includeSpans
  | .separators => items

end Draft

theorem mem_namesOf {n : OptionName} : n ∈ namesOf es ↔ .ofString n.name ∈ es.map (·.1) := by
  simp only [namesOf, List.mem_filterMap, OptionName.ofKey?_eq_some, List.mem_map]

theorem named_getName? (es : Entries) (n : OptionName)
    : (if n ∈ namesOf es then es.getName? n.name else none) = es.getName? n.name := by
  split
  . rfl
  . next hn =>
    rw [mem_namesOf] at hn
    exact (Entries.get?_eq_none hn).symm

theorem given_separators {v : Option Value} {s : Option CharSet}
    : (∃ items, Given (fun v r => readItems v = .ok r) none v items ∧ checkItems items = .ok s)
        ↔
      Given IsSeparators none v s := by
  cases v with
  | none =>
    constructor
    . rintro ⟨_, rfl, ⟨⟩⟩
      rfl
    . rintro rfl
      exact ⟨none, rfl, rfl⟩
  | some v => exact readSeparators_eq_ok

theorem exists_draft_iff {value? : OptionName → Option Value}
    : (∃ d : Draft, (∀ n, Given (fun v r => readValue n v = .ok r) (Draft.initial n) (value? n) (d n))
          ∧ d.finish = .ok o)
        ↔
      o.Follows value? := by
  simp only [Draft.finish_eq_ok]
  constructor
  . rintro ⟨d, hd, hlocale, hfuzzy, hsubstring, hspans, hseparators⟩
    constructor
    . rw [hlocale]
      exact (hd .locale).imp fun _ => readLocale_eq_ok.mp
    . rw [hfuzzy]
      exact (hd .allowFuzzy).imp fun _ => readSwitch_eq_ok.mp
    . rw [hsubstring]
      exact (hd .allowSubstring).imp fun _ => readSwitch_eq_ok.mp
    . rw [hspans]
      exact (hd .includeSpans).imp fun _ => readSwitch_eq_ok.mp
    . exact given_separators.mp ⟨_, hd .separators, hseparators⟩
  . rintro ⟨hlocale, hfuzzy, hsubstring, hspans, hseparators⟩
    rcases given_separators.mpr hseparators with ⟨items, hitems, hcheck⟩
    refine ⟨.ofOptions o items, ?_, rfl, rfl, rfl, rfl, hcheck⟩
    intro n
    cases n with
    | locale => exact hlocale.imp fun _ => readLocale_eq_ok.mpr
    | allowFuzzy => exact hfuzzy.imp fun _ => readSwitch_eq_ok.mpr
    | allowSubstring => exact hsubstring.imp fun _ => readSwitch_eq_ok.mpr
    | includeSpans => exact hspans.imp fun _ => readSwitch_eq_ok.mpr
    | separators => exact hitems

theorem ofEntries_eq_ok
    : ofEntries es = .ok o ↔ unknownKeys es = [] ∧ o.Follows fun n => es.getName? n.name := by
  rw [← exists_draft_iff]
  unfold ofEntries
  dsimp only
  split
  . next hknown =>
    rw [List.isEmpty_iff] at hknown
    simp only [Except.bind_eq_ok, Draft.read_eq_ok, Draft.Reads, named_getName?, hknown, true_and]
  . next hunknown =>
    rw [List.isEmpty_iff] at hunknown
    constructor
    . rintro ⟨⟩
    . intro h
      exact absurd h.1 hunknown

theorem exists_given {α : Type} {Says : Value → α → Prop} (default : α) {v : Option Value}
    (h : ∀ w, v = some w → ∃ x, Says w x) : ∃ x, Given Says default v x := by
  cases v with
  | none => exact ⟨default, rfl⟩
  | some w => exact h w rfl

theorem exists_follows_iff {value? : OptionName → Option Value}
    : (∃ o : Options, o.Follows value?) ↔ ∀ n v, value? n = some v → Accepts n v := by
  constructor
  . rintro ⟨o, ho⟩ n v hv
    have hgiven : ∀ {α : Type} {Says : Value → α → Prop} {default x : α},
        Given Says default (value? n) x → ∃ x, Says v x := by
      intro α Says default x hx
      rw [hv] at hx
      exact ⟨x, hx⟩
    cases n with
    | locale => exact hgiven ho.locale
    | allowFuzzy => exact hgiven ho.allowFuzzy
    | allowSubstring => exact hgiven ho.allowSubstring
    | includeSpans => exact hgiven ho.includeSpans
    | separators => exact hgiven ho.separators
  . intro h
    rcases exists_given none (h .locale) with ⟨l, hl⟩
    rcases exists_given false (h .allowFuzzy) with ⟨f, hf⟩
    rcases exists_given false (h .allowSubstring) with ⟨b, hb⟩
    rcases exists_given false (h .includeSpans) with ⟨i, hi⟩
    rcases exists_given none (h .separators) with ⟨s, hs⟩
    exact ⟨⟨l, f, b, i, s⟩, hl, hf, hb, hi, hs⟩

theorem ofEntries_congr {es' : Entries} (hkeys : es.map (·.1) = es'.map (·.1))
    (hvalue : ∀ n : OptionName, es.getName? n.name = es'.getName? n.name) : ofEntries es = ofEntries es' := by
  have hnames : namesOf es = namesOf es' := by
    have hnamed : ∀ fs : Entries, namesOf fs = (fs.map (·.1)).filterMap OptionName.ofKey? := by
      intro fs
      rw [List.filterMap_map]
      rfl
    rw [hnamed, hnamed, hkeys]
  unfold ofEntries unknownKeys
  rw [hkeys, hnames, funext hvalue]

/-! ### Errors -/

theorem readLocale_lists {v : Value} {e : Error} (h : readLocale v = .error e) : e.preventsListing = false := by
  cases v <;> cases h <;> rfl

theorem readSwitch_lists {n : OptionName} {v : Value} {e : Error} (h : readSwitch n v = .error e)
    : e.preventsListing = false := by
  unfold readSwitch at h
  split at h
  . cases h
  . split at h
    . cases h
    . cases h
      rfl
  . cases h
    rfl

theorem readCharacters_lists {vs : List Value} {e : Error} (h : readCharacters vs = .error e)
    : e.preventsListing = false := by
  fun_induction readCharacters vs with
  | case1 => cases h
  | case2 c vs ih => exact ih (Except.map_eq_error.mp h)
  | case3 v vs hother =>
    cases h
    rfl

theorem readItems_lists {v : Value} {e : Error} (h : readItems v = .error e) : e.preventsListing = false := by
  cases v <;> cases h <;> rfl

theorem readValue_lists {n : OptionName} {v : Value} {e : Error} (h : readValue n v = .error e)
    : e.preventsListing = false := by
  cases n with
  | locale => exact readLocale_lists h
  | allowFuzzy | allowSubstring | includeSpans => exact readSwitch_lists h
  | separators => exact readItems_lists h

theorem Draft.FailsFirst.lists {value? : OptionName → Option Value} {ns : List OptionName} {e : Error}
    (h : FailsFirst value? e ns) : e.preventsListing = false := by
  induction h with
  | here _ hwrong => exact readValue_lists hwrong
  | later _ _ ih => exact ih

theorem checkItems_lists {items : Option (List Value)} {e : Error} (h : checkItems items = .error e)
    : e.preventsListing = false := by
  cases items with
  | none => cases h
  | some items => exact readCharacters_lists (Except.map_eq_error.mp h)

theorem Draft.finish_eq_error {d : Draft} {e : Error}
    : d.finish = .error e ↔ checkItems (d .separators) = .error e := by
  unfold finish
  rw [Except.bind_eq_error]
  constructor
  . rintro (hcheck | ⟨s, _, ⟨⟩⟩)
    exact hcheck
  . exact .inl

-- Which of several errors there is: unknown keys come first, then wrong values in the order of the entries, and
-- last of all separators that are no characters.
theorem ofEntries_eq_error {e : Error}
    : ofEntries es = .error e
        ↔
      (unknownKeys es ≠ [] ∧ unknownError (unknownKeys es) = e) ∨
        (unknownKeys es = [] ∧
          (Draft.FailsFirst (fun n => es.getName? n.name) e (namesOf es) ∨
            ∃ d, Draft.Reads (fun n => es.getName? n.name) (namesOf es) .initial d ∧
              checkItems (d .separators) = .error e)) := by
  unfold ofEntries
  dsimp only
  split
  . next hknown =>
    rw [List.isEmpty_iff] at hknown
    simp only [Except.bind_eq_error, Draft.read_eq_error, Draft.read_eq_ok, Draft.finish_eq_error, hknown,
      ne_eq, not_true_eq_false, false_and, true_and, false_or]
  . next hunknown =>
    rw [List.isEmpty_iff] at hunknown
    simp only [Except.error.injEq, hunknown, ne_eq, not_false_eq_true, false_and, true_and, or_false]

theorem preventsListing_iff_of_ofEntries {e : Error} (h : ofEntries es = .error e)
    : e.preventsListing = true ↔ ∃ k ∈ unknownKeys es, ∀ t, k ≠ .text t := by
  rcases ofEntries_eq_error.mp h with ⟨_, rfl⟩ | ⟨hknown, hwrong⟩
  . exact unknownError_preventsListing
  . have hlists : e.preventsListing = false := by
      rcases hwrong with hfirst | ⟨d, _, hcheck⟩
      . exact hfirst.lists
      . exact checkItems_lists hcheck
    rw [hlists, hknown]
    simp

end Options
end IdentSearch
