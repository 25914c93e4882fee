import IdentSearch.Options.Entries
import Mathlib.Data.List.Nodup

/-!
Entries put on top of others, as the values of their keys show them. The stronger entries have texts for keys,
each of them once; the weaker ones may hold anything.
-/

namespace IdentSearch

theorem Value.sameKey_text {v : Value} {t : Text} : v.sameKey (.text t) = true ↔ v = .text t := by
  cases v with
  | text u => simp [sameKey]
  | _ => simp [sameKey, number?]

namespace Entries

structure AreNamed (es : Entries) : Prop where
  texts : ∀ e ∈ es, ∃ t, e.1 = .text t
  distinct : (es.map (·.1)).Nodup

theorem areNamed_cons {e : Value × Value} {es : Entries}
    : AreNamed (e :: es) ↔ (∃ t, e.1 = .text t) ∧ e.1 ∉ es.map (·.1) ∧ es.AreNamed := by
  constructor
  . rintro ⟨htexts, hdistinct⟩
    rw [List.map_cons, List.nodup_cons] at hdistinct
    refine ⟨htexts e List.mem_cons_self, hdistinct.1, ?_, hdistinct.2⟩
    intro e' he'
    exact htexts e' (List.mem_cons_of_mem e he')
  . rintro ⟨htext, hnew, hes⟩
    constructor
    . rw [List.forall_mem_cons]
      exact ⟨htext, hes.texts⟩
    . rw [List.map_cons, List.nodup_cons]
      exact ⟨hnew, hes.distinct⟩

theorem AreNamed.filter {es : Entries} (h : es.AreNamed) (p : Value × Value → Bool)
    : AreNamed (es.filter p) := by
  constructor
  . intro e he
    exact h.texts e (List.mem_filter.mp he).1
  . exact h.distinct.sublist (List.filter_sublist.map _)

variable {es newer : Entries} {t u : Text}

theorem get?_cons {e : Value × Value}
    : get? (.text t) (e :: es) = if e.1.sameKey (.text t) then some e.2 else get? (.text t) es := by
  unfold get?
  rw [List.find?_cons]
  cases e.1.sameKey (.text t) with
  | true => rfl
  | false => rfl

theorem get?_eq_none (h : .text t ∉ es.map (·.1)) : get? (.text t) es = none := by
  rw [get?, Option.map_eq_none_iff, List.find?_eq_none]
  intro e he hsame
  rw [Value.sameKey_text] at hsame
  apply h
  rw [← hsame]
  exact List.mem_map_of_mem he

theorem get?_put (v : Value)
    : get? (.text t) (put (.text u) v es) = if u = t then some v else get? (.text t) es := by
  induction es with
  | nil =>
    rw [put, get?_cons]
    simp [Value.sameKey]
  | cons e es ih =>
    rw [put]
    split
    . next hsame =>
      rw [Value.sameKey_text] at hsame
      rw [get?_cons, get?_cons, hsame]
      simp only [Value.sameKey, beq_iff_eq]
      split
      . rfl
      . rfl
    . next hother =>
      rw [get?_cons, get?_cons, ih]
      split
      . next hsame =>
        have hne : u ≠ t := by
          intro heq
          exact hother (heq ▸ hsame)
        rw [if_neg hne]
      . rfl

theorem update_cons (e : Value × Value) (newer es : Entries)
    : es.update (e :: newer) = (es.put e.1 e.2).update newer :=
  rfl

theorem keys_put_congr {es' : Entries} (h : es.map (·.1) = es'.map (·.1)) (k v w : Value)
    : (es.put k v).map (·.1) = (es'.put k w).map (·.1) := by
  induction es generalizing es' with
  | nil =>
    rw [List.map_nil, eq_comm, List.map_eq_nil_iff] at h
    rw [h]
    rfl
  | cons e es ih =>
    cases es' with
    | nil => cases h
    | cons e' es' =>
      rw [List.map_cons, List.map_cons, List.cons.injEq] at h
      rw [put, put, h.1]
      split
      . rw [List.map_cons, List.map_cons, h.2]
      . rw [List.map_cons, List.map_cons, ih h.2]

theorem keys_update_congr {es' newer' : Entries} (h : es.map (·.1) = es'.map (·.1))
    (hnewer : newer.map (·.1) = newer'.map (·.1)) : (es.update newer).map (·.1) = (es'.update newer').map (·.1) := by
  induction newer generalizing es es' newer' with
  | nil =>
    rw [List.map_nil, eq_comm, List.map_eq_nil_iff] at hnewer
    rw [hnewer]
    exact h
  | cons e newer ih =>
    cases newer' with
    | nil => cases hnewer
    | cons e' newer' =>
      rw [List.map_cons, List.map_cons, List.cons.injEq] at hnewer
      rw [update_cons, update_cons, hnewer.1]
      exact ih (keys_put_congr h _ _ _) hnewer.2

theorem get?_update (h : newer.AreNamed)
    : get? (.text t) (es.update newer) = (get? (.text t) newer).or (get? (.text t) es) := by
  induction newer generalizing es with
  | nil => rfl
  | cons e newer ih =>
    rcases areNamed_cons.mp h with ⟨⟨u, hu⟩, hnew, hnewer⟩
    rw [update_cons, ih hnewer, hu, get?_put, get?_cons, hu]
    simp only [Value.sameKey, beq_iff_eq]
    split
    . next heq =>
      rw [hu, heq] at hnew
      rw [get?_eq_none hnew]
      rfl
    . rfl

theorem get?_eq_some_iff (h : es.AreNamed) {v : Value} : get? (.text t) es = some v ↔ (.text t, v) ∈ es := by
  induction es with
  | nil => simp [get?]
  | cons e es ih =>
    rcases areNamed_cons.mp h with ⟨_, hnew, hes⟩
    rw [get?_cons, List.mem_cons]
    split
    . next hsame =>
      rw [Value.sameKey_text] at hsame
      rw [hsame] at hnew
      constructor
      . intro hv
        cases hv
        exact .inl (Prod.ext hsame.symm rfl)
      . rintro (rfl | hmem)
        . rfl
        . exact absurd (List.mem_map_of_mem hmem) hnew
    . next hother =>
      rw [ih hes]
      constructor
      . exact .inr
      . rintro (rfl | hmem)
        . exact absurd (Value.sameKey_text.mpr rfl) hother
        . exact hmem

theorem get?_filter (h : es.AreNamed) (p : Value → Bool)
    : get? (.text t) (es.filter fun e => p e.2) = (get? (.text t) es).filter p := by
  ext v
  rw [get?_eq_some_iff (h.filter _), List.mem_filter, Option.filter_eq_some_iff, get?_eq_some_iff h]

end Entries

/-! ### The names of options -/

namespace OptionName

theorem mem_all (o : OptionName) : o ∈ all := by
  cases o <;> decide

theorem ofKey?_eq_some {v : Value} {o : OptionName} : ofKey? v = some o ↔ v = .ofString o.name := by
  constructor
  . intro h
    cases v with
    | text t =>
      have hname := List.find?_some h
      rw [beq_iff_eq] at hname
      rw [Value.ofString, hname]
    | _ => cases h
  . rintro rfl
    cases o <;> rfl

theorem ofString_name_inj {o o' : OptionName} (h : Value.ofString o.name = .ofString o'.name) : o = o' := by
  have ho' := ofKey?_eq_some.mpr h
  rw [ofKey?_eq_some.mpr rfl] at ho'
  exact Option.some_inj.mp ho'

def listed (value? : OptionName → Option Value) : Entries :=
  all.filterMap fun o => (value? o).map fun v => (.ofString o.name, v)

theorem mem_listed {value? : OptionName → Option Value} {e : Value × Value}
    : e ∈ listed value? ↔ ∃ o v, value? o = some v ∧ e = (.ofString o.name, v) := by
  unfold listed
  rw [List.mem_filterMap]
  constructor
  . rintro ⟨o, _, he⟩
    rcases Option.map_eq_some_iff.mp he with ⟨v, hv, rfl⟩
    exact ⟨o, v, hv, rfl⟩
  . rintro ⟨o, v, hv, rfl⟩
    exact ⟨o, mem_all o, Option.map_eq_some_iff.mpr ⟨v, hv, rfl⟩⟩

theorem listed_areNamed (value? : OptionName → Option Value) : (listed value?).AreNamed := by
  constructor
  . intro e he
    rcases mem_listed.mp he with ⟨o, v, _, rfl⟩
    exact ⟨_, rfl⟩
  . unfold listed
    rw [List.map_filterMap]
    apply List.Nodup.filterMap
    . intro o o' k ho ho'
      simp only [Option.map_map, Option.mem_def, Option.map_eq_some_iff, Function.comp_apply] at ho ho'
      rcases ho with ⟨_, _, hk⟩
      rcases ho' with ⟨_, _, hk'⟩
      exact ofString_name_inj (hk.trans hk'.symm)
    . decide

theorem getName?_listed (value? : OptionName → Option Value) (o : OptionName)
    : (listed value?).getName? o.name = value? o := by
  ext v
  rw [Entries.getName?, Value.ofString, Entries.get?_eq_some_iff (listed_areNamed value?), mem_listed]
  constructor
  . rintro ⟨o', v', hv', heq⟩
    cases ofString_name_inj (congrArg Prod.fst heq)
    cases congrArg Prod.snd heq
    exact hv'
  . intro hv
    exact ⟨o, v, hv, rfl⟩

end OptionName
end IdentSearch
