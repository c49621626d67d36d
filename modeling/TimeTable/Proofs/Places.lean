import Mathlib.Data.List.GetD
import Mathlib.Data.List.Perm.Basic
import TimeTable.Proofs.Outcome

namespace TimeTable

variable {α : Type} {xs ys : List α} {i : Nat}

lemma getElem?_eq_some_getD (h : i < xs.length) (d : α) : xs[i]? = some (xs.getD i d) := by
  rw [List.getElem?_eq_getElem h, List.getD_eq_getElem _ _ h]

lemma getD_mem (h : i < xs.length) (d : α) : xs.getD i d ∈ xs := by
  rw [List.getD_eq_getElem _ _ h]
  exact List.getElem_mem h

lemma map_getD_range (xs : List α) (d : α) : (List.range xs.length).map (xs.getD · d) = xs := by
  apply List.ext_getElem
  · rw [List.length_map, List.length_range]
  · intro i hi hi'
    rw [List.getElem_map, List.getElem_range, List.getElem_eq_getD d]

/-- Members in another order are those at places in another order. -/
lemma exists_places_of_perm (h : ys.Perm xs) (d : α) :
    ∃ places : List Nat, places.Perm (List.range xs.length) ∧ ys = places.map (xs.getD · d) := by
  have hall : List.Forall₂ (fun x i => x = xs.getD i d) ((List.range xs.length).map (xs.getD · d))
      (List.range xs.length) := by
    rw [List.forall₂_map_left_iff, List.forall₂_same]
    intro i _
    rfl
  rw [map_getD_range] at hall
  obtain ⟨places, hys, hplaces⟩ := List.perm_comp_forall₂ h hall
  refine ⟨places, hplaces, ?_⟩
  rwa [← List.forall₂_eq_eq_eq, List.forall₂_map_right_iff]

/-- Lists that are related member by member are so at all places that are taken of both. -/
lemma forall₂_places {β : Type} {R : α → β → Prop} {zs : List β} {places : List Nat}
    (h : List.Forall₂ R xs zs) (d : α) (e : β) (hplaces : ∀ i ∈ places, i < xs.length) :
    List.Forall₂ R (places.map (xs.getD · d)) (places.map (zs.getD · e)) := by
  rw [List.forall₂_map_left_iff, List.forall₂_map_right_iff, List.forall₂_same]
  intro i hi
  obtain ⟨z, hz, hR⟩ := exists_getElem?_of_forall₂ h (getElem?_eq_some_getD (hplaces i hi) d)
  obtain ⟨hlt, rfl⟩ := List.getElem?_eq_some_iff.mp hz
  rwa [List.getD_eq_getElem zs e hlt]

/-- The places of a list at which a member is kept. -/
def keptPlaces (keep : α → Bool) (d : α) (xs : List α) : List Nat :=
  (List.range xs.length).filter fun i => keep (xs.getD i d)

lemma lt_of_mem_keptPlaces {keep : α → Bool} {d : α}
    (h : i ∈ keptPlaces keep d xs) : i < xs.length :=
  List.mem_range.mp (List.mem_of_mem_filter h)

/-- At the places of kept members are the members that are kept. -/
lemma map_getD_keptPlaces (keep : α → Bool) (d : α) (xs : List α) :
    (keptPlaces keep d xs).map (xs.getD · d) = xs.filter keep := by
  conv_rhs => rw [← map_getD_range xs d, List.filter_map]
  rfl

end TimeTable
