import Mathlib.Tactic.ByContra
import TimeTable.Column.Basic
import TimeTable.Proofs.Outcome

namespace TimeTable.Column

variable {c d : Column} {rows places : List Nat} {row row' i : Nat}

lemma getElem?_cells (h : row < c.length) : c.cells[row]? = some (c.cell row) := by
  rw [cell, List.getElem?_eq_getElem h, Option.join_some]

lemma cells_eq_map_cell (c : Column) : c.cells = (List.range c.length).map c.cell := by
  apply List.ext_getElem?
  intro row
  rw [List.getElem?_map]
  by_cases h : row < c.length
  · rw [getElem?_cells h, List.getElem?_range h, Option.map_some]
  · rw [List.getElem?_eq_none (Nat.le_of_not_lt h),
      List.getElem?_eq_none (by rw [List.length_range]; exact Nat.le_of_not_lt h), Option.map_none]

lemma toScalars_eq_map_get (c : Column) : c.toScalars = (List.range c.length).map c.get := by
  rw [toScalars]
  conv_lhs => rw [cells_eq_map_cell]
  rw [List.map_map]
  rfl

@[simp] lemma length_toScalars (c : Column) : c.toScalars.length = c.length :=
  List.length_map _

lemma getElem?_toScalars_eq_some_iff {v : Scalar} :
    c.toScalars[row]? = some v ↔ row < c.length ∧ c.get row = v := by
  simp [toScalars_eq_map_get, List.getElem?_eq_some_iff]

lemma toScalars_eq_singleton (h : c.length = 1) : c.toScalars = [c.get 0] := by
  rw [toScalars_eq_map_get, h]
  rfl

lemma exists_get_eq (c : Column) (row : Nat) : ∃ cell, c.dtype.toScalarOrNull cell = c.get row :=
  ⟨c.cell row, rfl⟩

/-- Cells with one value are one cell. -/
lemma toScalarOrNull_inj {dtype : DataType} {x y : Option dtype.Cell}
    (h : dtype.toScalarOrNull x = dtype.toScalarOrNull y) : x = y := by
  have hcells := congrArg dtype.ofScalar? h
  rw [DataType.ofScalar?_toScalarOrNull, DataType.ofScalar?_toScalarOrNull] at hcells
  exact Option.some.inj hcells

lemma cell_eq_of_get_eq (h : c.get row = c.get row') : c.cell row = c.cell row' :=
  toScalarOrNull_inj h

/-- A column is known by its name, its type and its values. -/
lemma eq_of_toScalars_eq (hname : c.name = d.name) (hdtype : c.dtype = d.dtype)
    (h : c.toScalars = d.toScalars) : c = d := by
  obtain ⟨name, dtype, cells⟩ := c
  obtain ⟨name', dtype', cells'⟩ := d
  obtain rfl : name = name' := hname
  obtain rfl : dtype = dtype' := hdtype
  have hcells : cells = cells' := (List.map_inj_right fun _ _ => toScalarOrNull_inj).mp h
  rw [hcells]

@[simp] lemma dtype_take (c : Column) (rows : List Nat) : (c.take rows).dtype = c.dtype := rfl

lemma take_eq (c : Column) (rows : List Nat) : c.take rows = ⟨c.name, c.dtype, rows.map c.cell⟩ := by
  rw [← cells_take]
  rfl

lemma cell_take (h : rows[i]? = some row) : (c.take rows).cell i = c.cell row := by
  show ((rows.map fun row => (c.cells.toArray[row]?).join)[i]?).join = c.cell row
  rw [List.getElem?_map, h, Option.map_some, Option.join_some, List.getElem?_toArray]
  rfl

lemma get_take (h : rows[i]? = some row) : (c.take rows).get i = c.get row := by
  rw [get, cell_take h]
  rfl

/-- Rows taken from rows taken are rows of the column itself. -/
lemma take_take {number : Nat → Nat} (h : ∀ i ∈ places, rows[i]? = some (number i)) :
    (c.take rows).take places = c.take (places.map number) := by
  rw [take_eq (c.take rows), take_eq c (places.map number), List.map_map]
  exact congrArg _ (List.map_congr_left fun i hi => cell_take (h i hi))

lemma toScalars_take (c : Column) (rows : List Nat) : (c.take rows).toScalars = rows.map c.get := by
  rw [take_eq]
  show (rows.map c.cell).map c.dtype.toScalarOrNull = rows.map c.get
  rw [List.map_map]
  rfl

lemma broadcast_of_length_eq {height : Nat} (h : c.length = height) : c.broadcast height = c := by
  rw [broadcast]
  split
  · next hcond => exact absurd (h.symm.trans hcond.1) hcond.2
  · rfl

lemma broadcast_of_length_eq_one {height : Nat} (h : c.length = 1) (hheight : height ≠ 1) :
    c.broadcast height = c.take (List.replicate height 0) :=
  if_pos ⟨h, hheight⟩

/-- All rows of a column make the column. -/
lemma take_range (c : Column) : c.take (List.range c.length) = c := by
  rw [take_eq, ← cells_eq_map_cell]

/-- A single row is repeated to any height. -/
lemma broadcast_eq_take (h : c.length = 1) (height : Nat) :
    c.broadcast height = c.take (List.replicate height 0) := by
  by_cases hheight : height = 1
  · subst hheight
    have hrange := take_range c
    rw [h] at hrange
    rw [broadcast_of_length_eq h]
    exact hrange.symm
  · exact broadcast_of_length_eq_one h hheight

lemma broadcast_one (c : Column) : c.broadcast 1 = c :=
  if_neg fun h => h.2 rfl

@[simp] lemma name_broadcast (c : Column) (height : Nat) : (c.broadcast height).name = c.name := by
  rw [broadcast]
  split
  · rfl
  · rfl

@[simp] lemma dtype_broadcast (c : Column) (height : Nat) :
    (c.broadcast height).dtype = c.dtype := by
  rw [broadcast]
  split
  · rfl
  · rfl

/-- What stands for a column when only some rows are kept: a single row stands for any rows. -/
def onRows (single : Bool) (rows : List Nat) (c : Column) : Column :=
  if single then c else c.take rows

@[simp] lemma onRows_true (rows : List Nat) (c : Column) : c.onRows true rows = c := rfl

@[simp] lemma onRows_false (rows : List Nat) (c : Column) : c.onRows false rows = c.take rows := rfl

@[simp] lemma name_onRows (single : Bool) (rows : List Nat) (c : Column) :
    (c.onRows single rows).name = c.name := by
  cases single <;> rfl

@[simp] lemma dtype_onRows (single : Bool) (rows : List Nat) (c : Column) :
    (c.onRows single rows).dtype = c.dtype := by
  cases single <;> rfl

lemma length_onRows {single : Bool} {n : Nat} (h : c.length = if single then 1 else n) :
    (c.onRows single rows).length = if single then 1 else rows.length := by
  cases single with
  | true => exact h
  | false => exact length_take c rows

lemma rename_onRows (single : Bool) (rows : List Nat) (c : Column) (name : String) :
    (c.onRows single rows).rename name = (c.rename name).onRows single rows := by
  cases single <;> rfl

/-- What a step gives on all rows it gives on any rows among them. -/
lemma mapM_rows {β : Type} {g : Nat → Except Fault (Option β)} {n : Nat} {ys : List (Option β)}
    (h : (List.range n).mapM g = .ok ys) (hrows : ∀ row ∈ rows, row < n) :
    rows.mapM g = .ok (rows.map fun row => (ys[row]?).join) := by
  obtain ⟨hlength, hget⟩ := List.forall₂_iff_get.mp (mapM_eq_ok_iff.mp h)
  rw [mapM_eq_ok_iff, List.forall₂_map_right_iff, List.forall₂_same]
  intro row hrow
  have hlt : row < n := hrows row hrow
  have hy := hget row (by rwa [List.length_range]) (by rwa [← hlength, List.length_range])
  simp only [List.get_eq_getElem, List.getElem_range] at hy
  rw [hy, List.getElem?_eq_getElem, Option.join_some]

/-- Steps on rows can be taken by the places of the rows. -/
lemma mapM_range_eq {β : Type} {g g' : Nat → Except Fault β}
    (hg : ∀ i row, rows[i]? = some row → g' i = g row) :
    (List.range rows.length).mapM g' = rows.mapM g := by
  have hmap : (List.range rows.length).map g' = rows.map g := by
    apply List.ext_getElem
    · rw [List.length_map, List.length_map, List.length_range]
    · intro i hi hi'
      rw [List.length_map] at hi'
      rw [List.getElem_map, List.getElem_map, List.getElem_range]
      exact hg i rows[i] (List.getElem?_eq_getElem hi')
  calc (List.range rows.length).mapM g' = ((List.range rows.length).map g').mapM id := by
        rw [List.mapM_map]; rfl
    _ = (rows.map g).mapM id := by rw [hmap]
    _ = rows.mapM g := by rw [List.mapM_map]; rfl

end TimeTable.Column
