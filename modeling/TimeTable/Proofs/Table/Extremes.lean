import TimeTable.Proofs.Column.Unordered
import TimeTable.Proofs.Table.Sorting

namespace TimeTable

open Std

variable {t : Table} {c : Column}

/-- The reduction to the value that stands first in a direction. -/
def Reducer.foremost (descending : Bool) : Reducer := if descending then .max else .min

def Column.sortedCells (c : Column) (descending : Bool) : List (Option c.dtype.Cell) :=
  (sortRows (c.sortOrder descending) (List.range c.length)).map c.cell

/-- A table that is sorted by one of its columns has the cells of this column in order. -/
lemma Table.sort_column (hc : c ∈ t.columns) (descending : Bool) :
    ∃ out, t.sort [c.name] descending = .ok out ∧
      out.column c.name = .ok ⟨c.name, c.dtype, c.sortedCells descending⟩ := by
  have hmem : ∀ d ∈ [c], d ∈ t.columns := List.forall_mem_singleton.mpr hc
  have hkeys : [c.name].mapM t.column = .ok [c] := mapM_column_map_name hmem
  have horder : compareByKeys [c] descending = c.sortOrder descending := by
    funext a b
    simp [compareByKeys]
  refine ⟨_, sort_eq_ok_iff.mpr ⟨[c], hkeys, rfl⟩, ?_⟩
  rw [horder, ← length_of_mem hc, Column.sortedCells, ← Column.take_eq]
  exact column_take _ (column_eq_ok_iff.mpr (column?_eq_some_iff.mpr ⟨hc, rfl⟩))

namespace Column

lemma sortedCells_perm (c : Column) (descending : Bool) :
    (c.sortedCells descending).Perm c.cells := by
  conv_rhs => rw [cells_eq_map_cell]
  exact (sortRows_perm _ _).map c.cell

lemma pairwise_sortedCells (c : Column) (descending : Bool) :
    (c.sortedCells descending).Pairwise fun x y =>
      (compareNullsLast (c.directed descending) x y).isLE := by
  rw [sortedCells, List.pairwise_map]
  exact pairwise_isLE_sortRows (c.sortOrder descending) (List.range c.length)

lemma toScalarOrNull_eq_null_iff {dtype : DataType} {cell : Option dtype.Cell} :
    dtype.toScalarOrNull cell = .null ↔ cell = none :=
  ⟨fun h => toScalarOrNull_inj (y := none) h, fun h => h ▸ rfl⟩

/-- Only missing cells come behind a missing cell. -/
lemma isLE_none_iff {α : Type} {order : α → α → Ordering} {cell : Option α} :
    (compareNullsLast order none cell).isLE ↔ cell = none := by
  cases cell <;> simp [compareNullsLast]

lemma firstBy_eq_none_iff {α : Type} {before : α → α → Bool} {vs : List α} :
    firstBy before vs = none ↔ vs = [] := by
  cases vs <;> simp [firstBy]

/-- The extreme of a column without lists is a cell that no other one comes before, or a missing cell if
there are no rows. -/
lemma exists_extreme (hlist : c.dtype.isList = false) (descending : Bool) (func : Reducer) :
    ∃ best, c.extreme (if descending then .gt else .lt) func = .ok (c.dtype.toScalarOrNull best) ∧
      (best ∈ c.cells ∨ c.cells = [] ∧ best = none) ∧
      ∀ cell ∈ c.cells, (compareNullsLast (c.directed descending) best cell).isLE := by
  refine ⟨_, extreme_eq_directed hlist descending func, ?_⟩
  cases hbest : firstBy (fun v w => c.directed descending v w == .lt) (c.cells.filterMap id) with
  | none =>
    have hnone : ∀ cell ∈ c.cells, cell = none := by
      rwa [firstBy_eq_none_iff, List.filterMap_eq_nil_iff] at hbest
    constructor
    · rcases List.eq_nil_or_concat c.cells with hnil | ⟨cells, cell, hcells⟩
      · exact .inr ⟨hnil, rfl⟩
      · have hmem : cell ∈ c.cells := by simp [hcells]
        exact .inl (hnone cell hmem ▸ hmem)
    · exact fun cell hcell => isLE_none_iff.mpr (hnone cell hcell)
  | some v =>
    have hinj : ∀ v w, c.directed descending v w = .eq → v = w := fun _ _ => eq_of_directed hlist
    obtain ⟨hmem, hle⟩ := (firstBy_eq_some_iff hinj).mp hbest
    refine ⟨.inl (by simpa using hmem), ?_⟩
    intro cell hcell
    cases cell with
    | none => rfl
    | some w => exact hle w (by simpa using hcell)

/-- The extreme of a column is the first of its sorted cells. -/
lemma extreme_eq_headD (hlist : c.dtype.isList = false) (descending : Bool) (func : Reducer) :
    c.extreme (if descending then .gt else .lt) func =
      .ok (c.dtype.toScalarOrNull ((c.sortedCells descending).headD none)) := by
  obtain ⟨best, hbest, hmem, hle⟩ := exists_extreme hlist descending func
  have hperm := sortedCells_perm c descending
  have hsorted := pairwise_sortedCells c descending
  rw [hbest]
  cases hcells : c.sortedCells descending with
  | nil =>
    rw [hcells] at hperm
    obtain ⟨-, rfl⟩ := hmem.resolve_left fun h => by simp [hperm.symm.eq_nil] at h
    rfl
  | cons first rest =>
    rw [hcells] at hperm hsorted
    have hfirst : first ∈ c.cells := hperm.subset List.mem_cons_self
    have hbest_mem : best ∈ c.cells := hmem.resolve_right fun hnil => by simp [hnil.1] at hfirst
    -- The first sorted cell is foremost as well, and two foremost cells are equal.
    rcases List.mem_cons.mp (hperm.symm.subset hbest_mem) with rfl | hrest
    · rfl
    · have heq : best = first := eq_of_compareNullsLast (fun _ _ => eq_of_directed hlist)
        (OrientedCmp.isLE_antisymm (hle first hfirst) (List.rel_of_pairwise_cons hsorted hrest))
      rw [heq, List.headD_cons]

lemma extreme_eq_null_iff (hlist : c.dtype.isList = false) (descending : Bool) (func : Reducer) :
    c.extreme (if descending then .gt else .lt) func = .ok .null ↔ ∀ v ∈ c.toScalars, v = .null := by
  obtain ⟨best, hbest, hmem, hle⟩ := exists_extreme hlist descending func
  rw [hbest, Except.ok.injEq, toScalarOrNull_eq_null_iff, toScalars, List.forall_mem_map]
  simp only [toScalarOrNull_eq_null_iff]
  constructor
  · rintro rfl cell hcell
    exact isLE_none_iff.mp (hle cell hcell)
  · intro hnone
    rcases hmem with hmem | ⟨-, rfl⟩
    · exact hnone best hmem
    · rfl

/-- The least value of a column is the first value when a table is sorted by the column upwards, and the
greatest value the first one when it is sorted downwards. There is none if and only if all values are
missing, and columns of lists have no extremes. -/
theorem reduce_foremost (c : Column) (descending : Bool) :
    (c.dtype.isList = false →
      (∀ t : Table, c ∈ t.columns → ∃ out d, t.sort [c.name] descending = .ok out ∧
        out.column c.name = .ok d ∧
        c.reduce (.foremost descending) = .ok (d.toScalars.headD .null)) ∧
      (c.reduce (.foremost descending) = .ok .null ↔ ∀ v ∈ c.toScalars, v = .null)) ∧
    (c.dtype.isList = true →
      ∃ fault, c.reduce (.foremost descending) = .error fault ∧ fault.kind = .typeMismatch) := by
  have hreduce : c.reduce (.foremost descending) =
      c.extreme (if descending then .gt else .lt) (.foremost descending) := by
    cases descending <;> rfl
  rw [hreduce]
  constructor
  · intro hlist
    refine ⟨fun t hc => ?_, extreme_eq_null_iff hlist descending _⟩
    obtain ⟨out, hout, hcolumn⟩ := Table.sort_column hc descending
    refine ⟨out, _, hout, hcolumn, ?_⟩
    rw [extreme_eq_headD hlist, toScalars]
    cases c.sortedCells descending <;> rfl
  · intro hlist
    obtain ⟨name, dtype, cells⟩ := c
    cases dtype with
    | list inner => exact ⟨_, rfl, rfl⟩
    | _ => exact absurd hlist Bool.false_ne_true

/-- Zeros of both signs, of which the negative one is the lesser, and a column of lists. -/
theorem reduce_foremost_zeros :
    let c : Column := ⟨"x", .float64, [none, some .zero, some .negativeZero, some .zero]⟩
    let lists : Column := ⟨"items", .list .int64, [some [.int64 1]]⟩
    ∃ (t out : Table) (d : Column), c.dtype.isList = false ∧ c ∈ t.columns ∧
      t.sort ["x"] false = .ok out ∧ out.column "x" = .ok d ∧
      d.toScalars.headD .null = .float64 .negativeZero ∧
      c.reduce .min = .ok (.float64 .negativeZero) ∧ lists.dtype.isList = true ∧
      ∃ fault, lists.reduce .min = .error fault ∧ fault.kind = .typeMismatch := by
  intro c lists
  let t : Table :=
    { columns := [c]
      sameHeight := by simp [SameHeight]
      distinctNames := by simp [DistinctNames] }
  have hc : c ∈ t.columns := List.mem_singleton.mpr rfl
  have hmin : c.reduce .min = .ok (.float64 .negativeZero) := rfl
  obtain ⟨out, d, hout, hd, hfirst⟩ := ((reduce_foremost c false).1 rfl).1 t hc
  exact ⟨t, out, d, rfl, hc, hout, hd, Except.ok.inj (hfirst.symm.trans hmin), hmin, rfl,
    (reduce_foremost lists false).2 rfl⟩

end Column
end TimeTable
