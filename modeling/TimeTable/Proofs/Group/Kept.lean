import TimeTable.Group.Slice
import TimeTable.Proofs.Group.Among
import TimeTable.Proofs.Group.Partition
import TimeTable.Proofs.Places

/-!
# Groups of kept rows

If only some rows are kept, but equal rows together, then the groups of the kept rows are the groups
that are kept, in the same order. Their rows go by new numbers, the places among the kept rows. The first
or last rows of the groups that are kept are those of all groups that are kept rows.
-/

namespace TimeTable

lemma flatMap_filter {α β : Type} (keep : α → Bool) (f : α → List β) (xs : List α) :
    (xs.filter keep).flatMap f = xs.flatMap fun x => if keep x then f x else [] := by
  induction xs with
  | nil => rfl
  | cons x xs ih =>
    rw [List.flatMap_cons, ← ih, List.filter_cons]
    split
    · rw [List.flatMap_cons]
    · rw [List.nil_append]

namespace GroupSlice

variable {slice : GroupSlice} {index : GroupIndex} {rows : List Nat} {row m : Nat}

lemma apply_sublist (slice : GroupSlice) (rows : List Nat) (m : Nat) :
    (slice.apply rows m).Sublist rows := by
  cases slice with
  | head => exact List.take_sublist m rows
  | tail => exact List.drop_sublist _ rows

lemma apply_ne_nil (slice : GroupSlice) (hm : m ≠ 0) (hrows : rows ≠ []) : slice.apply rows m ≠ [] := by
  have hlength := List.length_pos_iff.mpr hrows
  cases slice with
  | head =>
    rw [apply, ne_eq, List.take_eq_nil_iff, not_or]
    exact ⟨hm, hrows⟩
  | tail =>
    rw [apply, ne_eq, List.drop_eq_nil_iff]
    omega

lemma map_apply (number : Nat → Nat) :
    (slice.apply rows m).map number = slice.apply (rows.map number) m := by
  cases slice with
  | head => exact List.map_take
  | tail => rw [apply, apply, List.map_drop, List.length_map]

lemma mem_selectRows :
    row ∈ slice.selectRows index m ↔ ∃ group ∈ index.groups, row ∈ slice.apply group m := by
  rw [selectRows, List.mem_flatMap]

/-- The first rows of the groups are their slices of one row. -/
lemma selectRows_head_one (index : GroupIndex) : head.selectRows index 1 = index.firstRows := by
  rw [selectRows, GroupIndex.firstRows]
  induction index.groups with
  | nil => rfl
  | cons group groups ih =>
    rw [List.flatMap_cons, ih, List.filterMap_cons]
    cases group with
    | nil => rfl
    | cons row rows => rfl

end GroupSlice

namespace GroupIndex

variable {index index' : GroupIndex} {slice : GroupSlice} {related : Nat → Nat → Prop}
  {same same' : Nat → Nat → Bool} {keep : Nat → Bool} {number : Nat → Nat} {m n row : Nat}

lemma Classifies.lt_of_mem (h : index.Classifies related) {group : List Nat}
    (hgroup : group ∈ index.groups) (hrow : row ∈ group) : row < index.rowCount :=
  List.mem_range.mp (h.covers.mem_iff.mp (List.mem_flatten_of_mem hgroup hrow))

lemma Classifies.lt_of_mem_selectRows (h : index.Classifies related)
    (hrow : row ∈ slice.selectRows index m) : row < index.rowCount := by
  obtain ⟨group, hgroup, hmem⟩ := GroupSlice.mem_selectRows.mp hrow
  exact h.lt_of_mem hgroup ((slice.apply_sublist group m).subset hmem)

/-- Slices that are not empty have for every row a related one. -/
lemma Classifies.exists_mem_selectRows (h : index.Classifies related) (slice : GroupSlice)
    (hm : m ≠ 0) (hrow : row < index.rowCount) (hrefl : related row row) :
    ∃ other ∈ slice.selectRows index m, related other row := by
  obtain ⟨group, hgroup, hmem, -⟩ := (h.together_iff row hrow row hrow).mpr hrefl
  obtain ⟨other, hother⟩ := List.exists_mem_of_ne_nil _
    (slice.apply_ne_nil hm (h.nonempty group hgroup))
  have hselected := GroupSlice.mem_selectRows.mpr ⟨group, hgroup, hother⟩
  refine ⟨other, hselected, ?_⟩
  exact (h.together_iff other (h.lt_of_mem_selectRows hselected) row hrow).mp
    ⟨group, hgroup, (slice.apply_sublist group m).subset hother, hmem⟩

lemma headD_mem {group : List Nat} (h : group ≠ []) : group.headD 0 ∈ group := by
  obtain ⟨row, rows, rfl⟩ := List.exists_cons_of_ne_nil h
  exact List.mem_cons_self

lemma firstRows_eq_map (h : ∀ group ∈ index.groups, group ≠ []) :
    index.firstRows = index.groups.map (·.headD 0) := by
  have hhead : ∀ group ∈ index.groups, group.head? = some (group.headD 0) := by
    intro group hgroup
    obtain ⟨row, rows, rfl⟩ := List.exists_cons_of_ne_nil (h group hgroup)
    rfl
  rw [firstRows, List.filterMap_congr hhead, List.filterMap_eq_map']

lemma getD_firstRows (h : ∀ group ∈ index.groups, group ≠ []) (place : Nat) :
    index.firstRows.getD place 0 = (index.groups.getD place []).headD 0 := by
  rw [firstRows_eq_map h]
  exact List.getD_map _ [] fun group => group.headD 0

/-- That the groups of an index are those of another one that are kept, with new numbers for their
rows. -/
structure Keeps (keep : Nat → Bool) (number : Nat → Nat) (index index' : GroupIndex) : Prop where
  nonempty : ∀ group ∈ index.groups, group ≠ []
  together : ∀ group ∈ index.groups, ∀ a ∈ group, ∀ b ∈ group, keep a = keep b
  map_groups : index'.groups.map (List.map number) = index.groups.filter (isKept keep)

/-- Among the rows that are kept the classes are those that are kept. -/
lemma keeps_classes {kept : List Nat} (hkept : kept = (List.range n).filter keep)
    (heq : Equivalence fun a b => same a b = true) (heq' : Equivalence fun a b => same' a b = true)
    (hkeep : ∀ a < n, ∀ b < n, same a b = true → keep a = keep b)
    (hsame : ∀ a < kept.length, ∀ b < kept.length,
      same' a b = same (kept.getD a 0) (kept.getD b 0)) :
    Keeps keep (kept.getD · 0) ⟨classes same n, n⟩ ⟨classes same' kept.length, kept.length⟩ where
  nonempty := (classifies_classes heq).nonempty
  together group hgroup a ha b hb := by
    have hlt : ∀ row ∈ group, row < n := fun row hrow =>
      (mem_flatten_classes heq).mp (List.mem_flatten_of_mem hgroup hrow)
    refine hkeep a (hlt a ha) b (hlt b hb) ?_
    exact ((classifies_classes heq).together_iff a (hlt a ha) b (hlt b hb)).mp
      ⟨group, hgroup, ha, hb⟩
  map_groups := by
    -- The classes of the kept rows are those of their numbers, and a class is kept with its first row.
    have hnumber := map_classesAmong fun a ha b hb =>
      hsame a (List.mem_range.mp ha) b (List.mem_range.mp hb)
    have hfilter := classesAmong_filter fun a ha b hb =>
      hkeep a (List.mem_range.mp ha) b (List.mem_range.mp hb)
    dsimp only
    rw [classes_eq_classesAmong heq', hnumber, map_getD_range, hkept, hfilter,
      classes_eq_classesAmong heq]

namespace Keeps

variable (h : Keeps keep number index index')
include h

lemma isKept_eq {group : List Nat} (hgroup : group ∈ index.groups) (hrow : row ∈ group) :
    isKept keep group = keep row := by
  rw [isKept, Bool.eq_iff_iff, List.all_eq_true]
  constructor
  · exact fun hall => hall row hrow
  · exact fun hkept other hother => (h.together group hgroup other hother row hrow).trans hkept

/-- Slices of the groups that are kept have the rows of all slices that are kept. -/
lemma map_selectRows (slice : GroupSlice) (m : Nat) :
    (slice.selectRows index' m).map number = (slice.selectRows index m).filter keep := by
  have hmap : (slice.selectRows index' m).map number =
      (index.groups.filter (isKept keep)).flatMap fun rows => slice.apply rows m := by
    rw [← h.map_groups, GroupSlice.selectRows, List.map_flatMap, List.flatMap_map]
    simp only [GroupSlice.map_apply]
  rw [hmap, flatMap_filter, GroupSlice.selectRows, List.filter_flatMap]
  -- A group is kept or dropped as a whole, and so is the slice of it.
  refine List.flatMap_congr fun group hgroup => ?_
  have hkept : ∀ row ∈ slice.apply group m, keep row = isKept keep group := fun row hrow =>
    (h.isKept_eq hgroup ((slice.apply_sublist group m).subset hrow)).symm
  rw [List.filter_congr hkept]
  cases isKept keep group with
  | true => rw [if_pos rfl, List.filter_true]
  | false => rw [if_neg Bool.false_ne_true, List.filter_false]

lemma map_firstRows : index'.firstRows.map number = index.firstRows.filter keep := by
  rw [← GroupSlice.selectRows_head_one, h.map_selectRows, GroupSlice.selectRows_head_one]

lemma keptPlaces_firstRows :
    keptPlaces keep 0 index.firstRows = keptPlaces (isKept keep) [] index.groups := by
  rw [keptPlaces, keptPlaces, length_firstRows h.nonempty]
  refine List.filter_congr fun i hi => ?_
  have hgroup : index.groups.getD i [] ∈ index.groups := getD_mem (List.mem_range.mp hi) []
  rw [getD_firstRows h.nonempty, h.isKept_eq hgroup (headD_mem (h.nonempty _ hgroup))]

/-- The groups that are kept are at the places of the first rows that are kept. -/
lemma map_groups_eq :
    index'.groups.map (List.map number) =
      (keptPlaces keep 0 index.firstRows).map (index.groups.getD · []) := by
  rw [h.map_groups, h.keptPlaces_firstRows, map_getD_keptPlaces]

end Keeps

end GroupIndex
end TimeTable
