import IdentSearch.CommandLine.Run
import IdentSearch.Proofs.Json.RoundTrip

/-!
What a ranking shows as JSON, read again. Nothing about a match is lost on the way.
-/

namespace IdentSearch

namespace Value

def text? : Value → Option Text
  | .text t => some t
  | _ => none

def bool? : Value → Option Bool
  | .bool b => some b
  | _ => none

def list? : Value → Option (List Value)
  | .list vs => some vs
  | _ => none

end Value

def Span.ofValue? : Value → Option Span
  | .list [.int start, .int length] => (Span.ofInts start length).toOption
  | _ => none

def Kind.ofValue? (v : Value) : Option Kind := v.text?.bind fun t => Kind.ofName? (String.ofList t)

def Spans.ofValue? (v : Value) : Option Spans := v.list?.bind fun vs => vs.mapM Span.ofValue?

def Ranked.ofEntries? (es : Entries) : Option Ranked := do
  let candidate ← (es.getName? "candidate").bind Value.text?
  let kind ← (es.getName? "kind").bind Kind.ofValue?
  let caseSensitive ← (es.getName? "is_case_sensitive").bind Value.bool?
  let stripped ← (es.getName? "punctuation_stripped").bind Value.bool?
  let spans ← (es.getName? "matched_spans").bind Spans.ofValue?
  return ⟨candidate, ⟨kind, stripped, caseSensitive, spans⟩⟩

def Ranked.ofValue? : Value → Option Ranked
  | .map es => ofEntries? es
  | _ => none

namespace CommandLine

def shownRanking? (output : Text) : Option (List Ranked) :=
  ((Json.read? output).bind Value.list?).bind fun vs => vs.mapM Ranked.ofValue?

/-! ### Reading one value after the other -/

theorem mapM_map_eq_some {α β : Type} {f : α → β} {g : β → Option α} (h : ∀ x, g (f x) = some x) (xs : List α)
    : (xs.map f).mapM g = some xs := by
  have hback : g ∘ f = fun x => pure x := funext h
  rw [List.mapM_map, hback, List.mapM_pure, List.map_id']
  rfl

theorem ofValue?_kind (k : Kind) : Kind.ofValue? (.ofString k.name) = some k := by
  cases k <;> decide

theorem ofValue?_span (s : Span) : Span.ofValue? (.list [.int s.start, .int s.length]) = some s := by
  rw [Span.ofValue?, Span.ofInts, if_neg (by omega), if_neg (by omega)]
  rfl

theorem ofValue?_spans (spans : Spans)
    : Spans.ofValue? (.list (spans.map fun s => .list [.int s.start, .int s.length])) = some spans :=
  mapM_map_eq_some ofValue?_span spans

theorem ofValue?_rankedValue (r : Ranked) : Ranked.ofValue? (rankedValue r) = some r := by
  calc Ranked.ofValue? (rankedValue r)
    _ = (Kind.ofValue? (.ofString r.result.kind.name)).bind fun kind =>
          (Spans.ofValue? (.list (r.result.spans.map fun s => .list [.int s.start, .int s.length]))).bind fun spans =>
            some ⟨r.candidate, kind, r.result.punctuationStripped, r.result.caseSensitive, spans⟩ := rfl
    _ = some r := by
      rw [ofValue?_kind, ofValue?_spans]
      rfl

theorem isPlain_rankedValue (r : Ranked) : (rankedValue r).IsPlain := by
  rw [rankedValue]
  apply Value.IsPlain.map
  . simp [Value.ofString]
  . simp only [List.forall_mem_cons]
    refine ⟨.text _, .text _, .bool _, .bool _, .list ?_, List.forall_mem_nil _⟩
    intro v hv
    rcases List.mem_map.mp hv with ⟨s, _, rfl⟩
    apply Value.IsPlain.list
    simp only [List.forall_mem_cons]
    exact ⟨.int _, .int _, List.forall_mem_nil _⟩

theorem shownRanking?_render (rs : List Ranked)
    : shownRanking? (Json.render 0 (.list (rs.map rankedValue)) ++ ['\n']) = some rs := by
  have hplain : (Value.list (rs.map rankedValue)).IsPlain := by
    apply Value.IsPlain.list
    intro v hv
    rcases List.mem_map.mp hv with ⟨r, _, rfl⟩
    exact isPlain_rankedValue r
  rw [shownRanking?, Json.read?_render hplain]
  exact mapM_map_eq_some ofValue?_rankedValue rs

end CommandLine
end IdentSearch
