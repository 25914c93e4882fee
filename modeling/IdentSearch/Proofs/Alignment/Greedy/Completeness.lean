import Mathlib.Data.List.Forall2
import IdentSearch.Proofs.Alignment.Moving
import IdentSearch.Proofs.Alignment.Greedy

/-!
Taking as many pattern humps as possible on every candidate hump loses nothing: whenever the pattern humps have
places of their own on candidate humps, from left to right, the chunk is aligned.
-/

namespace IdentSearch.Greedy

variable {f : Folding} {ignoreCase : Bool} {p : Text} {ps qs : List Text} {h : Hump} {hs : List Hump}

def Takes (f : Folding) (ignoreCase : Bool) (p : Text) (h : Hump) : Prop :=
  f.view ignoreCase p <+: f.view ignoreCase h.text

theorem absorb_left_suffix (rest : Text) (previous : Option Text) (ps : List Text)
    : (absorb f ignoreCase rest previous ps).2 <:+ ps :=
  ⟨_, absorb_append rest previous ps⟩

theorem absorb_left_suffix_of_takes (htakes : Takes f ignoreCase p h)
    : (absorb f ignoreCase h.text none (p :: ps)).2 <:+ ps := by
  unfold absorb
  rw [if_pos]
  . apply absorb_left_suffix
  . rw [Option.all_none, Bool.true_and]
    exact Folding.startsWith_iff.mpr htakes

theorem place_nil (hs : List Hump) : place f ignoreCase hs [] = some [] := by
  cases hs with
  | nil => rfl
  | cons h hs => rfl

theorem isSome_place_cons
    (hleft : (place f ignoreCase hs (absorb f ignoreCase h.text none qs).2).isSome)
    : (place f ignoreCase (h :: hs) qs).isSome := by
  cases qs with
  | nil => rfl
  | cons q qs =>
    unfold place
    rw [Option.isSome_map]
    exact hleft

-- Behind every candidate hump no more pattern humps are left than a placement of one on each would leave there.
theorem isSome_place_of_suffix (hplaced : List.SublistForall₂ (Takes f ignoreCase) ps hs) (hsuffix : qs <:+ ps)
    : (place f ignoreCase hs qs).isSome := by
  induction hplaced generalizing qs with
  | nil =>
    rw [List.suffix_nil.mp hsuffix, place_nil]
    rfl
  | cons htakes _ ih =>
    apply isSome_place_cons
    apply ih
    -- Either nothing was gained before this hump, which then takes at least one, or one less is left already.
    rcases List.suffix_cons_iff.mp hsuffix with rfl | hsuffix
    . exact absorb_left_suffix_of_takes htakes
    . exact (absorb_left_suffix _ _ _).trans hsuffix
  | cons_right _ ih =>
    apply isSome_place_cons
    apply ih
    exact (absorb_left_suffix _ _ _).trans hsuffix

theorem align_of_places {candidate : Text} {humps places : Spans} {chunk : Chunk} (offset : Int)
    (hchunk : chunk.humps ≠ []) (hplaces : places.Sublist humps)
    (hbegins : List.Forall₂ (fun p s => f.view ignoreCase p <+: f.view ignoreCase (s.textOf candidate))
      chunk.humpTexts places)
    : match (align f ignoreCase candidate humps chunk).mapM (·.move offset) with
      | .ok result => result.isSome = true
      | .error _ => offset < 0 := by
  have hplaced : List.SublistForall₂ (Takes f ignoreCase) chunk.humpTexts
      (humps.map (Hump.ofSpan candidate)) := by
    apply List.sublistForall₂_iff.mpr
    refine ⟨places.map (Hump.ofSpan candidate), ?_, hplaces.map _⟩
    exact List.forall₂_map_right_iff.mpr hbegins
  have hsome := isSome_place_of_suffix hplaced (List.suffix_refl _)
  rcases Option.isSome_iff_exists.mp hsome with ⟨placements, hplacements⟩
  have halign : align f ignoreCase candidate humps chunk = some (summarize humps.length placements) := by
    unfold align
    rw [if_neg, hplacements]
    . rfl
    . rw [List.isEmpty_iff]
      exact hchunk
  rw [halign]
  exact Alignment.isSome_of_mapM_move offset _

-- `UI` takes both capitals, although the second one could have `Item` for itself.
theorem align_of_places_SiUI
    : let candidate : Text := ['S', 'i', 'm', 'p', 'l', 'e', 'O', 'l', 'd', 'U', 'I', 'I', 't', 'e', 'm']
      let chunk : Chunk := ⟨['S', 'i', 'U', 'I']⟩
      let places : Spans := [⟨0, 6⟩, ⟨9, 2⟩, ⟨11, 4⟩]
      chunk.humps ≠ [] ∧ places.Sublist (wordHumps candidate) ∧
        List.Forall₂ (fun p s => Folding.plain.view false p <+: Folding.plain.view false (s.textOf candidate))
          chunk.humpTexts places ∧
        match (align .plain false candidate (wordHumps candidate) chunk).mapM (·.move 3) with
        | .ok result => result.isSome = true
        | .error _ => (3 : Int) < 0 := by
  intro candidate chunk places
  have hchunk : chunk.humps ≠ [] := by decide
  have hplaces : places.Sublist (wordHumps candidate) := by decide
  have hbegins : List.Forall₂
      (fun p s => Folding.plain.view false p <+: Folding.plain.view false (s.textOf candidate))
      chunk.humpTexts places := by decide
  exact ⟨hchunk, hplaces, hbegins, align_of_places 3 hchunk hplaces hbegins⟩

end IdentSearch.Greedy
