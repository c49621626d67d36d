import Mathlib.Data.List.Nodup
import TimeTable.Proofs.Column.Rows
import TimeTable.Proofs.Places
import TimeTable.Table.Basic

namespace TimeTable

variable {t u : Table} {c : Column} {columns : List Column} {name : String} {rows : List Nat}

/-! ### Forming a table -/

lemma Column.misfit?_eq_none_iff {height : Nat} {seen : List String} :
    misfit? height seen columns = none ↔ (∀ c ∈ columns, c.length = height) ∧
      (columns.map Column.name).Nodup ∧ ∀ c ∈ columns, c.name ∉ seen := by
  refine ⟨misfit?_eq_none, ?_⟩
  induction columns generalizing seen with
  | nil => exact fun _ => rfl
  | cons c cs ih =>
    rintro ⟨hheight, hnames, hseen⟩
    rw [List.map_cons, List.nodup_cons] at hnames
    rw [misfit?, if_neg (not_not.mpr (hheight c List.mem_cons_self)),
      if_neg (hseen c List.mem_cons_self)]
    -- What was seen grows by the name of the first column, which the others do not have.
    refine ih ⟨fun d hd => hheight d (List.mem_cons_of_mem c hd), hnames.2, ?_⟩
    intro d hd hmem
    rcases List.mem_cons.mp hmem with hname | hmem
    · exact hnames.1 (hname ▸ List.mem_map_of_mem hd)
    · exact hseen d (List.mem_cons_of_mem c hd) hmem

lemma Column.map_name_take (columns : List Column) (rows : List Nat) :
    (columns.map (·.take rows)).map Column.name = columns.map Column.name := by
  rw [List.map_map]
  rfl

namespace Table

lemma length_of_mem (h : c ∈ t.columns) : c.length = t.height := by
  rw [height]
  cases hcolumns : t.columns with
  | nil => rw [hcolumns] at h; exact absurd h List.not_mem_nil
  | cons d ds =>
    exact t.sameHeight c h d (hcolumns ▸ List.mem_cons_self)

/-- A table is the one formed of its columns. -/
lemma ofColumns_columns (t : Table) : ofColumns t.columns = .ok t := by
  have hfit : Column.misfit? t.height [] t.columns = none :=
    Column.misfit?_eq_none_iff.mpr
      ⟨fun _ hc => length_of_mem hc, t.distinctNames, fun _ _ => List.not_mem_nil⟩
  rw [ofColumns]
  split
  · next fault hmisfit => exact nomatch hfit.symm.trans hmisfit
  · rfl

lemma ofColumns_eq_ok_iff : ofColumns columns = .ok t ↔ t.columns = columns := by
  constructor
  · intro h
    rw [ofColumns] at h
    split at h
    · exact nomatch h
    · exact Except.ok.inj h ▸ rfl
  · rintro rfl
    exact ofColumns_columns t

/-- Columns form a table if and only if they have one height and distinct names. -/
lemma exists_ofColumns_iff :
    (∃ t, ofColumns columns = .ok t) ↔ Column.SameHeight columns ∧ Column.DistinctNames columns := by
  simp only [ofColumns_eq_ok_iff]
  constructor
  · rintro ⟨t, rfl⟩
    exact ⟨t.sameHeight, t.distinctNames⟩
  · rintro ⟨hheight, hnames⟩
    exact ⟨⟨columns, hheight, hnames⟩, rfl⟩

/-! ### Looking up columns -/

lemma column_eq_ok_iff : t.column name = .ok c ↔ t.column? name = some c := by
  rw [column]
  cases t.column? name with
  | none =>
    constructor
    · intro h
      exact nomatch h
    · intro h
      exact nomatch h
  | some d =>
    constructor
    · intro h
      exact congrArg some (Except.ok.inj h)
    · intro h
      exact congrArg Except.ok (Option.some.inj h)

lemma column?_eq_some (h : t.column? name = some c) : c ∈ t.columns ∧ c.name = name := by
  refine ⟨List.mem_of_find?_eq_some h, ?_⟩
  simpa using List.find?_some h

/-- As names are distinct, every column is found by its name. -/
lemma column?_eq_some_iff : t.column? name = some c ↔ c ∈ t.columns ∧ c.name = name := by
  refine ⟨column?_eq_some, ?_⟩
  rintro ⟨hc, rfl⟩
  cases hfind : t.column? c.name with
  | none =>
    have hnone := List.find?_eq_none.mp hfind c hc
    simp at hnone
  | some d =>
    obtain ⟨hd, hname⟩ := column?_eq_some hfind
    rw [List.inj_on_of_nodup_map t.distinctNames hd hc hname]

lemma column?_eq_none_iff : t.column? name = none ↔ name ∉ t.names := by
  rw [column?, List.find?_eq_none, names, List.mem_map, not_exists]
  constructor
  · rintro h c ⟨hc, rfl⟩
    simpa using h c hc
  · intro h c hc
    simpa using fun hname => h c ⟨hc, hname⟩

lemma exists_column_iff : (∃ c, t.column name = .ok c) ↔ name ∈ t.names := by
  simp only [column_eq_ok_iff]
  rw [← Option.isSome_iff_exists, ← Option.ne_none_iff_isSome, ne_eq, column?_eq_none_iff, not_not]

/-- Columns of a table are found by their names. -/
lemma mapM_column_map_name (h : ∀ c ∈ columns, c ∈ t.columns) :
    (columns.map Column.name).mapM t.column = .ok columns := by
  rw [mapM_eq_ok_iff, List.forall₂_map_left_iff, List.forall₂_same]
  intro c hc
  exact column_eq_ok_iff.mpr (column?_eq_some_iff.mpr ⟨h c hc, rfl⟩)

lemma map_name_of_mapM_column {names : List String} (h : names.mapM t.column = .ok columns) :
    columns.map Column.name = names := by
  conv_rhs => rw [← List.map_id names]
  exact map_eq_of_forall₂ (mapM_eq_ok_iff.mp h) fun name c hc =>
    (column?_eq_some (column_eq_ok_iff.mp hc)).2

lemma mem_columns_of_mapM_column {names : List String} (h : names.mapM t.column = .ok columns) :
    ∀ c ∈ columns, c ∈ t.columns := by
  intro c hc
  obtain ⟨name, -, hname⟩ := exists_mem_of_forall₂_right (mapM_eq_ok_iff.mp h) hc
  exact (column?_eq_some (column_eq_ok_iff.mp hname)).1

lemma length_of_mapM_column {names : List String} (h : names.mapM t.column = .ok columns) :
    ∀ c ∈ columns, c.length = t.height :=
  fun c hc => length_of_mem (mem_columns_of_mapM_column h c hc)

/-- Different names of columns that are there select a table. -/
lemma exists_select {names : List String} (hnodup : names.Nodup)
    (hnames : ∀ name ∈ names, name ∈ t.names) : ∃ u, t.select names = .ok u := by
  obtain ⟨columns, hcolumns⟩ := exists_mapM_eq_ok_iff.mpr fun name hname =>
    exists_column_iff.mpr (hnames name hname)
  have hheight := length_of_mapM_column hcolumns
  have hdistinct : Column.DistinctNames columns := by
    rw [Column.DistinctNames, map_name_of_mapM_column hcolumns]
    exact hnodup
  obtain ⟨u, hu⟩ := exists_ofColumns_iff.mpr
    ⟨fun c hc d hd => (hheight c hc).trans (hheight d hd).symm, hdistinct⟩
  exact ⟨u, by rw [select, hcolumns, ok_bind, hu]⟩

/-- Under the names that are selected one finds what was there before. -/
lemma column?_select {names : List String} (h : t.select names = .ok u) :
    ∀ name ∈ names, ∃ c, t.column? name = some c ∧ u.column? name = some c := by
  obtain ⟨columns, hcolumns, hu⟩ := bind_eq_ok.mp h
  rw [ofColumns_eq_ok_iff] at hu
  intro name hname
  obtain ⟨c, hc, hcolumn⟩ := exists_mem_of_forall₂ (mapM_eq_ok_iff.mp hcolumns) hname
  rw [column_eq_ok_iff] at hcolumn
  exact ⟨c, hcolumn, column?_eq_some_iff.mpr ⟨hu ▸ hc, (column?_eq_some hcolumn).2⟩⟩

/-- The types of the columns of a table by their names. -/
def schema (t : Table) (name : String) : Option DataType := (t.column? name).map Column.dtype

/-! ### Rows of tables -/

lemma column?_take (t : Table) (rows : List Nat) (name : String) :
    (t.take rows).column? name = (t.column? name).map (·.take rows) := by
  rw [column?, columns_take, List.find?_map]
  rfl

lemma column_take_eq (t : Table) (rows : List Nat) (name : String) :
    (t.take rows).column name = (t.column name).map (·.take rows) := by
  rw [column, column?_take, column]
  cases t.column? name with
  | none => rfl
  | some c => rfl

lemma column_take (rows : List Nat) (h : t.column name = .ok c) :
    (t.take rows).column name = .ok (c.take rows) := by
  rw [column_take_eq, h, map_ok]

@[simp] lemma names_take (t : Table) (rows : List Nat) : (t.take rows).names = t.names :=
  Column.map_name_take t.columns rows

@[simp] lemma schema_take (t : Table) (rows : List Nat) : (t.take rows).schema = t.schema := by
  funext name
  rw [schema, column?_take, Option.map_map]
  rfl

lemma eq_of_columns_eq (h : t.columns = u.columns) : t = u := by
  cases t
  cases u
  obtain rfl := h
  rfl

/-- All rows of a table make the table. -/
lemma take_range (t : Table) : t.take (List.range t.height) = t := by
  apply eq_of_columns_eq
  rw [columns_take]
  conv_rhs => rw [← List.map_id t.columns]
  refine List.map_congr_left fun c hc => ?_
  rw [← length_of_mem hc]
  exact Column.take_range c

/-- Rows taken from rows taken are rows of the table itself. -/
lemma take_take {places : List Nat} {number : Nat → Nat}
    (h : ∀ i ∈ places, rows[i]? = some (number i)) :
    (t.take rows).take places = t.take (places.map number) := by
  apply eq_of_columns_eq
  rw [columns_take, columns_take, columns_take, List.map_map]
  exact List.map_congr_left fun c _ => Column.take_take h

lemma height_take_nil (t : Table) : (t.take []).height = 0 := by
  rw [height, columns_take]
  cases t.columns with
  | nil => rfl
  | cons c cs => rfl

lemma columns_ne_nil {row : Nat} (h : row < t.height) : t.columns ≠ [] := by
  intro hcolumns
  rw [height, hcolumns] at h
  exact absurd h (Nat.not_lt_zero row)

lemma height_take (h : t.columns ≠ []) : (t.take rows).height = rows.length := by
  obtain ⟨c, cs, hcolumns⟩ := List.exists_cons_of_ne_nil h
  rw [height, columns_take, hcolumns]
  exact Column.length_take c rows

/-- A table of rows of a table has as many rows as are taken. -/
lemma height_take_of_lt (h : ∀ row ∈ rows, row < t.height) : (t.take rows).height = rows.length := by
  cases rows with
  | nil => exact height_take_nil t
  | cons row rows => exact height_take (columns_ne_nil (h row List.mem_cons_self))

lemma lt_of_mem_of_perm (h : rows.Perm (List.range t.height)) {row : Nat} (hrow : row ∈ rows) :
    row < t.height :=
  List.mem_range.mp (h.subset hrow)

/-- A table whose rows have been put into another order has the same height. -/
lemma height_take_of_perm (h : rows.Perm (List.range t.height)) : (t.take rows).height = t.height := by
  rw [height_take_of_lt fun _ hrow => lt_of_mem_of_perm h hrow, h.length_eq, List.length_range]

/-- Rows that have been put into another order can be put back. -/
lemma exists_take_eq_of_perm (h : rows.Perm (List.range t.height)) :
    ∃ places : List Nat, places.Perm (List.range (t.take rows).height) ∧
      (t.take rows).take places = t := by
  obtain ⟨places, hplaces, hrange⟩ := exists_places_of_perm h.symm 0
  refine ⟨places, ?_, ?_⟩
  · rw [height_take_of_lt fun _ hrow => lt_of_mem_of_perm h hrow]
    exact hplaces
  · calc (t.take rows).take places = t.take (places.map (rows.getD · 0)) := by
          apply take_take
          intro i hi
          exact getElem?_eq_some_getD (List.mem_range.mp (hplaces.subset hi)) 0
      _ = t := by rw [← hrange, take_range]

end Table
end TimeTable
