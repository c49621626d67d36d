import TimeTable.Csv.Reader
import TimeTable.Proofs.Column.Rows
import TimeTable.Proofs.Places

/-!
# Forms of cells

A column gets the first of several forms that reads all of its cells which are not empty. The form without
values reads no cell, so it is first if and only if all cells are empty, and the form of texts reads every
cell, so there is always a first one. As it does not matter in which order the cells stand, cells in another
order make a column with its rows in this order.
-/

namespace TimeTable.Csv

/-- A form of cells: the type of their column and how the values in it are read. -/
structure Form where
  dtype : DataType
  read? : List Char → Option dtype.Cell

namespace Form

variable {form : Form} {cells : List (List Char)}

def null : Form := ⟨.null, fun _ => none⟩

def text : Form := ⟨.utf8, fun s => some (.ofList s)⟩

/-- What a cell holds: nothing if it is empty, and else the value that is read of it. -/
def cell (form : Form) (s : List Char) : Option form.dtype.Cell :=
  if s.isEmpty then none else form.read? s

/-- Whether a form reads all cells that are not empty. -/
def reads (form : Form) (cells : List (List Char)) : Bool :=
  cells.all fun s => s.isEmpty || (form.read? s).isSome

lemma reads_iff :
    form.reads cells = true ↔ ∀ s ∈ cells, s ≠ [] → ∃ v, form.read? s = some v := by
  simp only [reads, List.all_eq_true, Bool.or_eq_true, List.isEmpty_iff, Option.isSome_iff_exists,
    or_iff_not_imp_left, ne_eq]

lemma reads_perm {cells' : List (List Char)} (h : cells'.Perm cells) :
    form.reads cells' = form.reads cells := by
  rw [reads, reads, h.all_eq]

lemma reads_null (cells : List (List Char)) : null.reads cells = cells.all List.isEmpty := by
  simp [reads, null]

lemma reads_text (cells : List (List Char)) : text.reads cells = true := by
  simp [reads, text]

/-- Cells are read if and only if a form reads each of them, and their values are what it reads. -/
lemma readCells?_eq (form : Form) (cells : List (List Char)) :
    readCells? form.read? cells = if form.reads cells then some (cells.map form.cell) else none := by
  split
  · next h =>
    rw [readCells?, mapM_eq_some_iff, List.forall₂_map_right_iff, List.forall₂_same]
    intro s hs
    rw [cell]
    split
    · rfl
    · next hne =>
      obtain ⟨v, hv⟩ := reads_iff.mp h s hs (by simpa using hne)
      rw [hv, Option.map_some]
  · next h =>
    rw [Option.eq_none_iff_forall_ne_some]
    intro vs hvs
    rw [readCells?, mapM_eq_some_iff] at hvs
    refine h (reads_iff.mpr fun s hs hne => ?_)
    obtain ⟨v, -, hv⟩ := exists_mem_of_forall₂ hvs hs
    rw [if_neg (by simpa using hne)] at hv
    obtain ⟨w, hw, -⟩ := Option.map_eq_some_iff.mp hv
    exact ⟨w, hw⟩

def column (form : Form) (name : String) (cells : List (List Char)) : Column :=
  ⟨name, form.dtype, cells.map form.cell⟩

section First

variable {first : Form} {forms : List Form}
  (h : (first :: forms).find? (fun f => f.reads cells) = some form)
include h

/-- The form that is tried first gives the column if it reads the cells, -/
lemma column_of_readCells? {vs : List (Option first.dtype.Cell)} (name : String)
    (hvs : readCells? first.read? cells = some vs) :
    ⟨name, first.dtype, vs⟩ = form.column name cells := by
  rw [readCells?_eq] at hvs
  split at hvs
  · next hreads =>
    rw [List.find?_cons_of_pos (by exact hreads)] at h
    obtain rfl := Option.some.inj h
    rw [← Option.some.inj hvs, column]
  · cases hvs

/-- and else those behind it are tried. -/
lemma find?_of_readCells? (hnone : readCells? first.read? cells = none) :
    forms.find? (fun f => f.reads cells) = some form := by
  rw [readCells?_eq] at hnone
  split at hnone
  · cases hnone
  · next hreads => rwa [List.find?_cons_of_neg (by exact hreads)] at h

end First

end Form

/-- The forms that are tried for a column, in order. -/
def Reader.forms (reader : Reader) : List Form :=
  [.null, ⟨.boolean, readBoolean?⟩, ⟨.int64, readInt?⟩, ⟨.float64, Binary64.read?⟩, ⟨.date, readDate?⟩,
    ⟨.datetime reader.unit none, reader.readTicks?⟩, .text]

def Reader.formOf? (reader : Reader) (cells : List (List Char)) : Option Form :=
  reader.forms.find? (·.reads cells)

variable {reader : Reader} {form : Form} {cells : List (List Char)}

lemma exists_formOf? (reader : Reader) (cells : List (List Char)) :
    ∃ form, reader.formOf? cells = some form := by
  rw [← Option.isSome_iff_exists, Reader.formOf?, List.find?_isSome]
  exact ⟨.text, by simp [Reader.forms], Form.reads_text cells⟩

/-- The column of cells has the first form that reads them. -/
lemma column_eq (name : String) (h : reader.formOf? cells = some form) :
    reader.column name cells = form.column name cells := by
  rw [Reader.formOf?, Reader.forms] at h
  rw [Reader.column]
  split
  · next hnull =>
    rw [List.find?_cons_of_pos (by rwa [Form.reads_null])] at h
    obtain rfl := Option.some.inj h
    rw [Form.column, Column.nulls, ← List.map_const']
    refine congrArg _ (List.map_congr_left fun s _ => ?_)
    exact (ite_self _).symm
  next hnull =>
  rw [List.find?_cons_of_neg (by rwa [Form.reads_null])] at h
  -- The types are tried one after the other.
  split
  · next hvs => exact Form.column_of_readCells? h name hvs
  next hnone =>
  replace h := Form.find?_of_readCells? h hnone
  split
  · next hvs => exact Form.column_of_readCells? h name hvs
  next hnone =>
  replace h := Form.find?_of_readCells? h hnone
  split
  · next hvs => exact Form.column_of_readCells? h name hvs
  next hnone =>
  replace h := Form.find?_of_readCells? h hnone
  split
  · next hvs => exact Form.column_of_readCells? h name hvs
  next hnone =>
  replace h := Form.find?_of_readCells? h hnone
  split
  · next hvs => exact Form.column_of_readCells? h name hvs
  next hnone =>
  replace h := Form.find?_of_readCells? h hnone
  rw [List.find?_cons_of_pos (by exact Form.reads_text cells)] at h
  obtain rfl := Option.some.inj h
  rfl

lemma formOf?_perm {cells' : List (List Char)} (h : cells'.Perm cells) :
    reader.formOf? cells' = reader.formOf? cells := by
  simp only [Reader.formOf?, Form.reads_perm h]

/-- Cells in another order make a column with its rows in this order. -/
lemma column_places {places : List Nat} (name : String)
    (h : places.Perm (List.range cells.length)) :
    reader.column name (places.map (cells.getD · [])) = (reader.column name cells).take places := by
  have hperm : (places.map (cells.getD · [])).Perm cells := by
    have hmap := h.map (cells.getD · [])
    rwa [map_getD_range] at hmap
  obtain ⟨form, hform⟩ := exists_formOf? reader cells
  rw [column_eq name hform, column_eq name ((formOf?_perm hperm).trans hform), Column.take_eq,
    Form.column, Form.column, List.map_map]
  refine congrArg _ (List.map_congr_left fun i hi => ?_)
  have hlt : i < cells.length := List.mem_range.mp (h.subset hi)
  rw [Function.comp_apply, Column.cell, List.getElem?_map, getElem?_eq_some_getD hlt [],
    Option.map_some, Option.join_some]

end TimeTable.Csv
