import IdentSearch.Proofs.Alignment.Spread.Search
import IdentSearch.Proofs.Alignment.Moving

/-!
The alignment of a chunk without capitals exists exactly when the folded chunk can be spread over the
humps, and its kind is the strongest that any way to spread it has.
-/

namespace IdentSearch

namespace Spread

def foldedHumps (f : Folding) (candidate : Text) : List Text :=
  (wordHumps candidate).map fun s => f.fold (s.textOf candidate)

def IsStrongest (texts : List Text) (pattern : Text) (kind : Kind) : Prop :=
  (∃ shares, Spells texts pattern shares ∧ kindOf texts.length shares = kind) ∧
    ∀ shares, Spells texts pattern shares → (kindOf texts.length shares).rank ≤ kind.rank

theorem ofShape_eq_of_contiguous {fromStart contiguous toEnd toEnd' : Bool}
    (h : contiguous = true → toEnd = toEnd')
    : Kind.ofShape fromStart contiguous toEnd = Kind.ofShape fromStart contiguous toEnd' := by
  cases contiguous with
  | false => cases fromStart <;> rfl
  | true => rw [h rfl]

theorem Found.isStrongest {slots : List Slot} {pattern : Text} {s : Start} {shares : List (Slot × Nat)}
    (hfound : Found slots pattern s shares) : IsStrongest (textsOf slots) pattern s.kind := by
  rw [IsStrongest, length_textsOf]
  refine ⟨⟨shares.map shareOf, hfound.traced.spells, ?_⟩, hfound.strongest⟩
  rw [kindOf, Start.kind, ← hfound.starts, ← hfound.contiguous_eq]
  apply ofShape_eq_of_contiguous
  intro hcontiguous
  exact (hfound.toEnd_eq hcontiguous).symm

def spansOf (shares : List (Slot × Nat)) : Spans := shares.map fun p => ⟨p.1.start, p.2⟩

theorem align_spec (f : Folding) (candidate : Text) (humps : Spans) (chunk : Chunk)
    : (align f candidate humps chunk = none ∧
        ∀ shares, ¬ Spells (textsOf (Slot.ofHumps f candidate humps)) (f.fold chunk.text) shares) ∨
          ∃ s shares,
            align f candidate humps chunk
                = some ⟨s.hump == 0, s.contiguous, s.toEnd, spansOf shares⟩ ∧
              Found (Slot.ofHumps f candidate humps) (f.fold chunk.text) s shares := by
  unfold align
  rcases search_spec (Slot.lined_ofHumps f candidate humps) (f.fold chunk.text) with
    ⟨hnone, hnot⟩ | ⟨s, shares, hsome, hfound⟩
  . rw [hnone]
    exact .inl ⟨rfl, hnot⟩
  . rw [hsome]
    exact .inr ⟨s, shares, rfl, hfound⟩

theorem align_strongest (f : Folding) (candidate : Text) (chunk : Chunk) (offset : Int)
    : match (align f candidate (wordHumps candidate) chunk).mapM (·.move offset) with
      | .ok none => ∀ shares, ¬ Spells (foldedHumps f candidate) (f.fold chunk.text) shares
      | .ok (some a) => IsStrongest (foldedHumps f candidate) (f.fold chunk.text) a.kind
      | .error _ => offset < 0 ∧ ∃ shares, Spells (foldedHumps f candidate) (f.fold chunk.text) shares := by
  have hspec := align_spec f candidate (wordHumps candidate) chunk
  rw [Slot.textsOf_ofHumps] at hspec
  rcases hspec with ⟨hnone, hnot⟩ | ⟨s, shares, hsome, hfound⟩
  . rw [hnone]
    exact hnot
  . have hstrongest := hfound.isStrongest
    rw [Slot.textsOf_ofHumps] at hstrongest
    rw [hsome, Option.mapM_some]
    cases hmove : Alignment.move offset ⟨s.hump == 0, s.contiguous, s.toEnd, spansOf shares⟩ with
    | error e =>
      rcases hstrongest.1 with ⟨others, hspells, _⟩
      exact ⟨Alignment.move_eq_error hmove, others, hspells⟩
    | ok a =>
      have hkind := Alignment.kind_of_move_eq_ok hmove
      show IsStrongest _ _ a.kind
      rw [hkind]
      exact hstrongest

end Spread
end IdentSearch
