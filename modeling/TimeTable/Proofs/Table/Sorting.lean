import Mathlib.Data.List.Nodup
import TimeTable.Plan.Run
import TimeTable.Proofs.Column.Order
import TimeTable.Proofs.Places
import TimeTable.Proofs.Table.Columns

/-!
# Sorted rows

Rows are sorted by a total preorder of them, and tied rows keep the order of their numbers. This fixes
the order of all rows, so that a part of the sorted rows is sorted as it would be by itself. If no rows
are tied then the order in which the rows come is of no importance.
-/

namespace TimeTable

open Std

def sortRows (order : Nat → Nat → Ordering) (rows : List Nat) : List Nat :=
  rows.mergeSort fun a b => (order a b).isLE

/-- Whether a row comes before another one in a stable sort: it is less, or tied and has the lower
number. -/
def Precedes (order : Nat → Nat → Ordering) (a b : Nat) : Prop :=
  order a b = .lt ∨ order a b = .eq ∧ a < b

instance decidablePrecedes (order : Nat → Nat → Ordering) : DecidableRel (Precedes order) :=
  fun a b => inferInstanceAs (Decidable (order a b = .lt ∨ order a b = .eq ∧ a < b))

variable {order : Nat → Nat → Ordering} {rows rows' : List Nat} {a b : Nat}

lemma sortRows_perm (order : Nat → Nat → Ordering) (rows : List Nat) :
    (sortRows order rows).Perm rows :=
  List.mergeSort_perm rows _

/-- Sorting goes along with other numbers for the rows, if these have the same order. -/
lemma map_sortRows {order' : Nat → Nat → Ordering} {number : Nat → Nat}
    (h : ∀ a ∈ rows, ∀ b ∈ rows, order' a b = order (number a) (number b)) :
    (sortRows order' rows).map number = sortRows order (rows.map number) := by
  apply List.map_mergeSort
  intro a ha b hb
  rw [h a ha b hb]

lemma idxOf_lt_of_pair_sublist (hnodup : rows.Nodup) (h : List.Sublist [a, b] rows) :
    rows.idxOf a < rows.idxOf b := by
  have hidx : rows.Pairwise fun a b => rows.idxOf a < rows.idxOf b := by
    rw [List.pairwise_iff_getElem]
    intro i j hi hj hij
    rwa [hnodup.idxOf_getElem, hnodup.idxOf_getElem]
  exact List.pairwise_iff_forall_sublist.mp hidx h

/-- Two different members stand in one order if the other one is against the order of the list. -/
lemma pair_sublist_of_pairwise {R : Nat → Nat → Prop} (hrows : rows.Pairwise R) (ha : a ∈ rows)
    (hb : b ∈ rows) (hne : a ≠ b) (hnot : ¬R b a) : List.Sublist [a, b] rows := by
  induction hrows with
  | nil => exact absurd ha List.not_mem_nil
  | cons hR _ ih =>
    rcases List.mem_cons.mp ha with rfl | ha'
    · rcases List.mem_cons.mp hb with rfl | hb'
      · exact absurd rfl hne
      · exact (List.singleton_sublist.mpr hb').cons_cons _
    · rcases List.mem_cons.mp hb with rfl | hb'
      · exact absurd (hR a ha') hnot
      · exact (ih ha' hb').cons _

section TotalPreorder

variable [TransCmp order]

lemma isLE_trans_order (a b c : Nat) (hab : (order a b).isLE) (hbc : (order b c).isLE) :
    (order a c).isLE :=
  TransCmp.isLE_trans hab hbc

lemma isLE_total_order (a b : Nat) : ((order a b).isLE || (order b a).isLE) = true := by
  have hswap : order b a = (order a b).swap := OrientedCmp.eq_swap
  rw [hswap]
  cases order a b with
  | lt => rfl
  | eq => rfl
  | gt => rfl

lemma pairwise_isLE_sortRows (order : Nat → Nat → Ordering) [TransCmp order] (rows : List Nat) :
    (sortRows order rows).Pairwise fun a b => (order a b).isLE :=
  List.pairwise_mergeSort isLE_trans_order isLE_total_order rows

/-- Different rows do not precede each other. -/
lemma Precedes.asymm (hab : Precedes order a b) : ¬Precedes order b a := by
  intro hba
  have hswap : order b a = (order a b).swap := OrientedCmp.eq_swap
  rcases hab with hlt | ⟨heq, hlt⟩
  · rcases hba with hlt' | ⟨heq', -⟩
    · simp [hlt, hlt'] at hswap
    · simp [hlt, heq'] at hswap
  · rcases hba with hlt' | ⟨-, hlt'⟩
    · simp [heq, hlt'] at hswap
    · omega

/-- Rows in order are in a stable order if tied rows stand in the order of their numbers. -/
lemma pairwise_precedes (hnodup : rows.Nodup) (hle : rows.Pairwise fun a b => (order a b).isLE)
    (hstable : ∀ a ∈ rows, ∀ b ∈ rows, a < b → order a b = .eq → List.Sublist [a, b] rows) :
    rows.Pairwise (Precedes order) := by
  rw [List.pairwise_iff_forall_sublist] at hle ⊢
  intro a b h
  have hab := hle h
  cases horder : order a b with
  | lt => exact .inl horder
  | gt => simp [horder] at hab
  | eq =>
    refine .inr ⟨horder, ?_⟩
    have hidx := idxOf_lt_of_pair_sublist hnodup h
    rcases Nat.lt_trichotomy a b with hlt | rfl | hlt
    · exact hlt
    · exact absurd hidx (Nat.lt_irrefl _)
    · -- Tied rows that stand the other way round would stand both ways.
      have hswapped := hstable b (h.subset (by simp)) a (h.subset (by simp)) hlt
        (OrientedCmp.eq_symm horder)
      exact absurd hidx (Nat.lt_asymm (idxOf_lt_of_pair_sublist hnodup hswapped))

/-- Rows in order of their numbers are sorted stably. -/
lemma pairwise_precedes_sortRows (hrows : rows.Pairwise (· < ·)) :
    (sortRows order rows).Pairwise (Precedes order) := by
  have hperm := sortRows_perm order rows
  refine pairwise_precedes (hperm.nodup_iff.mpr (hrows.imp Nat.ne_of_lt))
    (pairwise_isLE_sortRows order rows) ?_
  intro a ha b hb hlt heq
  -- A tied pair stands after the sort as it stood before.
  have hpair : List.Sublist [a, b] rows :=
    pair_sublist_of_pairwise hrows (hperm.subset ha) (hperm.subset hb) (Nat.ne_of_lt hlt)
      (Nat.lt_asymm hlt)
  have hle : (order a b).isLE := by simp [heq]
  exact List.pair_sublist_mergeSort isLE_trans_order isLE_total_order hle hpair

/-- The stable sort is the only way to put rows into a stable order. -/
lemma sortRows_eq_iff (hrows : rows.Pairwise (· < ·)) :
    sortRows order rows = rows' ↔ rows'.Perm rows ∧ rows'.Pairwise (Precedes order) := by
  constructor
  · rintro rfl
    exact ⟨sortRows_perm order rows, pairwise_precedes_sortRows hrows⟩
  · rintro ⟨hperm, hrows'⟩
    refine ((sortRows_perm order rows).trans hperm.symm).eq_of_pairwise ?_
      (pairwise_precedes_sortRows hrows) hrows'
    intro a b _ _ hab hba
    exact absurd hba hab.asymm

/-- Rows that are kept are sorted as they stand among all sorted rows. -/
lemma sortRows_filter (hrows : rows.Pairwise (· < ·)) (keep : Nat → Bool) :
    sortRows order (rows.filter keep) = (sortRows order rows).filter keep := by
  rw [sortRows_eq_iff (hrows.filter keep)]
  exact ⟨(sortRows_perm order rows).filter keep, (pairwise_precedes_sortRows hrows).filter keep⟩

/-- If different rows are never tied then rows are sorted alike in whatever order they come. -/
lemma sortRows_eq_of_perm (h : rows.Perm rows')
    (hties : ∀ a ∈ rows, ∀ b ∈ rows, order a b = .eq → a = b) :
    sortRows order rows = sortRows order rows' := by
  refine List.Perm.eq_of_pairwise ?_ (pairwise_isLE_sortRows order rows)
    (pairwise_isLE_sortRows order rows')
    ((sortRows_perm order rows).trans (h.trans (sortRows_perm order rows').symm))
  intro a b ha hb hab hba
  have ha' := (sortRows_perm order rows).subset ha
  have hb' := h.symm.subset ((sortRows_perm order rows').subset hb)
  exact hties a ha' b hb' (OrientedCmp.isLE_antisymm hab hba)

end TotalPreorder

namespace Table

variable {t out : Table} {keys : List Column} {names : List String} {descending : Bool} {i j : Nat}

instance transCmp_compareByKeys (keys : List Column) (descending : Bool) :
    TransCmp (compareByKeys keys descending) := by
  induction keys with
  | nil => exact { eq_swap := rfl, isLE_trans := fun _ _ => rfl }
  | cons key keys ih =>
    exact inferInstanceAs
      (TransCmp (compareLex (key.sortOrder descending) (compareByKeys keys descending)))

lemma compareByKeys_take (hi : rows[i]? = some a) (hj : rows[j]? = some b) :
    compareByKeys (keys.map (·.take rows)) descending i j = compareByKeys keys descending a b := by
  induction keys with
  | nil => rfl
  | cons key keys ih =>
    rw [List.map_cons, compareByKeys, compareByKeys, Column.sortOrder_take hi hj, ih]

/-- Rows that are tied in all columns, none of which holds lists, have equal keys. -/
lemma get_eq_of_compareByKeys (hlists : ∀ key ∈ keys, key.dtype.isList = false)
    (h : compareByKeys keys descending a b = .eq) : ∀ key ∈ keys, key.get a = key.get b := by
  induction keys with
  | nil => exact fun _ hkey => absurd hkey List.not_mem_nil
  | cons key keys ih =>
    rw [compareByKeys, Ordering.then_eq_eq] at h
    rw [List.forall_mem_cons] at hlists ⊢
    exact ⟨Column.get_eq_of_sortOrder hlists.1 h.1, ih hlists.2 h.2⟩

/-- Sorted rows of rows that are taken are the taken rows in sorted order. -/
lemma map_sortRows_take (keys : List Column) (descending : Bool) (rows : List Nat) :
    (sortRows (compareByKeys (keys.map (·.take rows)) descending) (List.range rows.length)).map
        (rows.getD · 0) = sortRows (compareByKeys keys descending) rows := by
  conv_rhs => rw [← map_getD_range rows 0]
  apply map_sortRows
  intro i hi j hj
  exact compareByKeys_take (getElem?_eq_some_getD (List.mem_range.mp hi) 0)
    (getElem?_eq_some_getD (List.mem_range.mp hj) 0)

lemma sort_eq_ok_iff :
    t.sort names descending = .ok out ↔ ∃ keys, names.mapM t.column = .ok keys ∧
      out = t.take (sortRows (compareByKeys keys descending) (List.range t.height)) := by
  rw [sort, bind_eq_ok]
  refine exists_congr fun keys => and_congr_right fun _ => ?_
  rw [Except.ok.injEq, eq_comm]
  rfl

/-- Rows of a table are sorted by the columns of the table itself. -/
lemma sort_take_eq_ok_iff (hrows : ∀ row ∈ rows, row < t.height) :
    (t.take rows).sort names descending = .ok out ↔ ∃ keys, names.mapM t.column = .ok keys ∧
      out = t.take (sortRows (compareByKeys keys descending) rows) := by
  have hcolumns : names.mapM (t.take rows).column =
      (names.mapM t.column).map (List.map (·.take rows)) := by
    rw [map_mapM]
    simp only [← column_take_eq]
  have htake : ∀ keys : List Column,
      (t.take rows).take (sortRows (compareByKeys (keys.map (·.take rows)) descending)
        (List.range rows.length)) = t.take (sortRows (compareByKeys keys descending) rows) := by
    intro keys
    rw [← map_sortRows_take keys descending rows]
    apply take_take
    intro i hi
    exact getElem?_eq_some_getD (List.mem_range.mp ((sortRows_perm _ _).subset hi)) 0
  rw [sort_eq_ok_iff, hcolumns, height_take_of_lt hrows]
  simp only [map_eq_ok]
  constructor
  · rintro ⟨_, ⟨keys, hkeys, rfl⟩, rfl⟩
    exact ⟨keys, hkeys, htake keys⟩
  · rintro ⟨keys, hkeys, rfl⟩
    exact ⟨_, ⟨keys, hkeys, rfl⟩, (htake keys).symm⟩

/-- If different rows are never tied then a table is sorted alike in whatever order its rows come. -/
lemma sort_take_of_perm (hrows : rows.Perm (List.range t.height))
    (hkeys : names.mapM t.column = .ok keys)
    (hties : ∀ a < t.height, ∀ b < t.height, compareByKeys keys descending a b = .eq → a = b) :
    (t.take rows).sort names descending = .ok out ↔ t.sort names descending = .ok out := by
  have hsorted : sortRows (compareByKeys keys descending) rows =
      sortRows (compareByKeys keys descending) (List.range t.height) :=
    sortRows_eq_of_perm hrows fun a ha b hb =>
      hties a (lt_of_mem_of_perm hrows ha) b (lt_of_mem_of_perm hrows hb)
  rw [sort_take_eq_ok_iff fun _ => lt_of_mem_of_perm hrows, sort_eq_ok_iff]
  simp only [hkeys, Except.ok.injEq, exists_eq_left', hsorted]

end Table

lemma Plan.run_sort_eq_ok_iff {input : Plan} {out : Table} {names : List String}
    {descending : Bool} :
    (Plan.sort input names descending).run = .ok out ↔
      ∃ t, input.run = .ok t ∧ t.sort names descending = .ok out := by
  rw [run, bind_eq_ok]

end TimeTable
