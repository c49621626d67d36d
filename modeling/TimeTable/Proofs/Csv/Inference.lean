import TimeTable.Proofs.Csv.Forms
import TimeTable.Proofs.Table.Columns
import TimeTable.Proofs.Text.Utf8

/-!
# Tables that are read

An input that is read gives a table with a row for each record of data and a column for each field, whose
type and values are those of the first form that reads its cells. The places of the records and the order of
the data do not matter: an input with its records of data in another order gives the same table with its rows
in this order.
-/

namespace TimeTable.Csv

/-! ### Records -/

namespace Scanner

variable {s : Scanner}

/-- Whether all records have a field. -/
def HasFields (s : Scanner) : Prop := ∀ r ∈ s.records, r.fields ≠ []

lemma HasFields.endRecord (h : s.HasFields) (mode : Mode) : (s.endRecord mode).HasFields := by
  intro r hr
  rcases List.mem_cons.mp hr with rfl | hr
  · simp [endField]
  · exact h r hr

lemma HasFields.unquoted (h : s.HasFields) (separator b : UInt8) :
    (s.unquoted separator b).HasFields := by
  rw [Scanner.unquoted]
  split
  · exact h
  · split
    · exact h.endRecord _
    · exact h

lemma HasFields.atStart (h : s.HasFields) (separator b : UInt8) :
    (s.atStart separator b).HasFields := by
  rw [Scanner.atStart]
  split
  · exact h
  · exact h.unquoted separator b

lemma HasFields.atRecord (h : s.HasFields) (separator b : UInt8) :
    (s.atRecord separator b).HasFields := by
  rw [Scanner.atRecord]
  split
  · exact h
  · exact h.atStart separator b

/-- A byte leaves the records as they are or adds one with a field. -/
lemma HasFields.step (h : s.HasFields) (separator b : UInt8) :
    (Scanner.step separator s b).HasFields := by
  -- To count bytes and lines is nothing to the fields, whatever the scanner is in.
  have hcount : (s.count b).HasFields := h
  simp only [Scanner.step]
  split
  · exact hcount.atRecord separator b
  · split
    · exact hcount
    · exact hcount.atRecord separator b
  · exact hcount.atStart separator b
  · exact hcount.unquoted separator b
  · split
    · exact hcount
    · exact hcount
  · split
    · exact hcount
    · exact hcount.unquoted separator b

lemma HasFields.foldl (h : s.HasFields) (separator : UInt8) (bytes : List UInt8) :
    (bytes.foldl (Scanner.step separator) s).HasFields := by
  induction bytes generalizing s with
  | nil => exact h
  | cons b bytes ih => exact ih (h.step separator b)

lemma HasFields.finish (h : s.HasFields) : ∀ r ∈ s.finish, r.fields ≠ [] := by
  intro r hr
  rw [Scanner.finish, List.mem_reverse] at hr
  split at hr
  · exact h r hr
  · exact h r hr
  all_goals exact h.endRecord .between r hr

end Scanner

/-- Every record has a field. -/
lemma fields_ne_nil {separator : UInt8} {bytes : List UInt8} {r : Record}
    (h : r ∈ records separator bytes) : r.fields ≠ [] := by
  have hstart : (Scanner.initial (dropMark bytes).1).HasFields := fun r hr => absurd hr List.not_mem_nil
  exact (hstart.foldl separator (dropMark bytes).2).finish r h

/-- The bytes of the fields of the records that bytes consist of. -/
def fieldsOf (separator : UInt8) (bytes : List UInt8) : List (List (List UInt8)) :=
  (records separator bytes).map Record.fields

/-! ### Texts -/

/-- That fields, of which there are as many as expected, are read as texts. -/
def Decodes (width : Nat) (fields : List (List UInt8)) (row : List (List Char)) : Prop :=
  fields.length = width ∧ List.Forall₂ (fun bytes text => Utf8.decode bytes = .ok text) fields row

variable {width : Nat} {fields : List (List UInt8)} {row : List (List Char)} {r : Record}
  {rs : List Record} {rows : List (List (List Char))} {reader : Reader}

lemma Decodes.length_eq (h : Decodes width fields row) : row.length = width :=
  h.2.length_eq.symm.trans h.1

lemma textsFrom_eq_ok_iff {place : RecordPlace} {n : Nat} :
    Record.textsFrom place n fields = .ok row ↔
      List.Forall₂ (fun bytes text => Utf8.decode bytes = .ok text) fields row := by
  -- The place is general in the induction: it moves on with each field, and is only seen in a fault.
  induction fields generalizing n row with
  | nil =>
    rw [Record.textsFrom, List.forall₂_nil_left_iff]
    exact ⟨fun h => (Except.ok.inj h).symm, fun h => congrArg Except.ok h.symm⟩
  | cons bytes fields ih =>
    rw [Record.textsFrom, List.forall₂_cons_left_iff]
    cases Utf8.decode bytes with
    | error index => simp
    | ok text =>
      constructor
      · intro h
        obtain ⟨rest, hrest, hrow⟩ := bind_eq_ok.mp h
        exact ⟨text, rest, rfl, ih.mp hrest, (Except.ok.inj hrow).symm⟩
      · rintro ⟨text', rest, htext, hrest, rfl⟩
        obtain rfl := Except.ok.inj htext
        exact bind_eq_ok.mpr ⟨rest, ih.mpr hrest, rfl⟩

/-- The texts of a record do not depend on its place. -/
lemma texts_eq_ok_iff : r.texts width = .ok row ↔ Decodes width r.fields row := by
  rw [Record.texts, Decodes]
  split
  · next h => rw [textsFrom_eq_ok_iff, and_iff_right h]
  · next h => simp [h]

lemma mapM_texts_eq_ok_iff :
    rs.mapM (Record.texts width) = .ok rows ↔
      List.Forall₂ (Decodes width) (rs.map Record.fields) rows := by
  simp only [mapM_eq_ok_iff, List.forall₂_map_left_iff, texts_eq_ok_iff]

/-! ### Names and data -/

/-- The records of data: those below the header, if there is one. -/
def Reader.data {α : Type} (reader : Reader) (rows : List α) : List α :=
  if reader.hasHeader then rows.tail else rows

/-- The number of fields of records, which is that of the first one. -/
def widthOf (fs : List (List (List UInt8))) : Nat := (fs.head?.map List.length).getD 0

/-- The names of columns: the texts of the header, or numbers. -/
def Reader.titles (reader : Reader) (width : Nat) (rows : List (List (List Char))) :
    List (List Char) :=
  if reader.hasHeader then (rows.head?.getD []).map Text.trim else numberedNames width

lemma split_eq (hwidth : (rows.head?.map List.length).getD 0 = width) :
    reader.split rows = (reader.titles width rows, reader.data rows) := by
  cases rows with
  | nil =>
    obtain rfl : 0 = width := hwidth
    rw [Reader.split, Reader.titles, Reader.data]
    exact Prod.ext (ite_self _).symm (ite_self _).symm
  | cons row rest =>
    obtain rfl : row.length = width := hwidth
    rw [Reader.split, Reader.titles, Reader.data]
    split
    · rfl
    · rfl

/-- Texts have as many fields in their first record as the records that they are read of. -/
lemma widthOf_rows {fs : List (List (List UInt8))} (h : List.Forall₂ (Decodes (widthOf fs)) fs rows) :
    (rows.head?.map List.length).getD 0 = widthOf fs := by
  cases h with
  | nil => rfl
  | cons hrow _ => exact hrow.length_eq

def cellsAt (rows : List (List (List Char))) (i : Nat) : List (List Char) :=
  rows.map fun row => Text.trim (row[i]?.getD [])

/-- The columns of the names, each of the cells of its fields. -/
def Reader.columns (reader : Reader) (width : Nat) (rows : List (List (List Char))) : List Column :=
  List.zipWith (fun name i => reader.column (.ofList name) (cellsAt (reader.data rows) i))
    (reader.titles width rows) (List.range width)

variable {bytes bytes' : List UInt8} {t : Table} {fs fs' : List (List (List UInt8))} {places : List Nat}
  {c : Column} {i : Nat}

/-- An input is read if its records are texts of as many fields as the first one and if they give columns
of a table. -/
lemma read_eq_ok_iff (hfs : fieldsOf reader.separator bytes = fs) :
    reader.read bytes = .ok t ↔
      ∃ rows, List.Forall₂ (Decodes (widthOf fs)) fs rows ∧
        t.columns = reader.columns (widthOf fs) rows := by
  have hwidth : ((records reader.separator bytes).head?.map fun r => r.fields.length).getD 0 =
      widthOf fs := by
    rw [← hfs, widthOf, fieldsOf, List.head?_map, Option.map_map]
    rfl
  rw [Reader.read]
  simp only [hwidth, bind_eq_ok, mapM_texts_eq_ok_iff]
  rw [← fieldsOf, hfs]
  refine exists_congr fun rows => and_congr_right fun hrows => ?_
  rw [split_eq (widthOf_rows hrows), Table.ofColumns_eq_ok_iff, columnCells, List.zipWith_map_right]
  rfl

/-! ### Columns that are read -/

lemma length_titles (h : (rows.head?.map List.length).getD 0 = width) :
    (reader.titles width rows).length = width := by
  rw [Reader.titles]
  split
  · rw [List.length_map, ← h]
    cases rows with
    | nil => rfl
    | cons row rest => rfl
  · rw [numberedNames, List.length_map, List.length_range]

/-- There is a column for each field, -/
lemma length_columns (h : (rows.head?.map List.length).getD 0 = width) :
    (reader.columns width rows).length = width := by
  rw [Reader.columns, List.length_zipWith, length_titles h, List.length_range, Nat.min_self]

/-- and the column in a place is made of the cells in this place of the records. -/
lemma eq_column_of_getElem?_columns (h : (reader.columns width rows)[i]? = some c) :
    c = reader.column c.name (cellsAt (reader.data rows) i) := by
  rw [Reader.columns, List.getElem?_zipWith_eq_some] at h
  obtain ⟨name, j, -, hj, rfl⟩ := h
  obtain ⟨hlt, rfl⟩ := List.getElem?_eq_some_iff.mp hj
  rw [List.getElem_range]
  obtain ⟨form, hform⟩ := exists_formOf? reader (cellsAt (reader.data rows) i)
  simp only [column_eq _ hform, Form.column]

lemma length_of_mem_columns (h : c ∈ reader.columns width rows) :
    c.length = (reader.data rows).length := by
  obtain ⟨i, hi⟩ := List.mem_iff_getElem?.mp h
  obtain ⟨form, hform⟩ := exists_formOf? reader (cellsAt (reader.data rows) i)
  rw [eq_column_of_getElem?_columns hi, column_eq _ hform, Column.length, Form.column,
    List.length_map, cellsAt, List.length_map]

lemma cellsAt_places (rows : List (List (List Char))) (places : List Nat) (i : Nat) :
    cellsAt (places.map (rows.getD · [])) i = places.map ((cellsAt rows i).getD · []) := by
  rw [cellsAt, List.map_map]
  refine List.map_congr_left fun place _ => ?_
  let cell (row : List (List Char)) : List Char := Text.trim (row[i]?.getD [])
  have hcell : (rows.map cell).getD place (cell []) = cell (rows.getD place []) := List.getD_map ..
  exact hcell.symm

/-- Data in another order give columns with their rows in this order. -/
lemma columns_places {rows' : List (List (List Char))}
    (htitles : reader.titles width rows' = reader.titles width rows)
    (hdata : reader.data rows' = places.map ((reader.data rows).getD · []))
    (hplaces : places.Perm (List.range (reader.data rows).length)) :
    reader.columns width rows' = (reader.columns width rows).map (·.take places) := by
  rw [Reader.columns, htitles, hdata, Reader.columns, List.map_zipWith]
  congr 1
  funext name i
  rw [cellsAt_places]
  exact column_places _ (by rwa [cellsAt, List.length_map])

/-! ### Records of data in another order -/

/-- If records are texts, then so are those with the same header and with these data in another order. -/
lemma exists_rows_of_data (hrows : List.Forall₂ (Decodes width) fs rows)
    (hheader : reader.hasHeader → fs'.head? = fs.head?)
    (hdata : reader.data fs' = places.map ((reader.data fs).getD · []))
    (hplaces : ∀ place ∈ places, place < (reader.data fs).length) :
    ∃ rows', List.Forall₂ (Decodes width) fs' rows' ∧
      (reader.hasHeader → rows'.head? = rows.head?) ∧
      reader.data rows' = places.map ((reader.data rows).getD · []) := by
  -- With a header the first record stays where it is, and the others are moved behind it.
  cases hcase : reader.hasHeader with
  | false =>
    rw [hcase] at hheader
    simp only [Reader.data, hcase, Bool.false_eq_true, if_false] at hdata hplaces ⊢
    rw [hdata]
    exact ⟨_, forall₂_places hrows [] [] hplaces, False.elim, rfl⟩
  | true =>
    replace hheader := hheader hcase
    simp only [Reader.data, hcase, if_true] at hdata hplaces ⊢
    cases hrows with
    | nil =>
      obtain rfl : fs' = [] := List.head?_eq_none_iff.mp hheader
      exact ⟨[], .nil, fun _ => rfl, (List.map_eq_nil_iff.mp hdata.symm) ▸ rfl⟩
    | cons hrow hrest =>
      obtain ⟨ds, rfl⟩ := List.head?_eq_some_iff.mp hheader
      obtain rfl : ds = _ := hdata
      exact ⟨_, .cons hrow (forall₂_places hrest [] [] hplaces), fun _ => rfl, rfl⟩

/-- As the records of data have the same lengths, there are as many fields as before. -/
lemma widthOf_eq_of_data (hrows : List.Forall₂ (Decodes (widthOf fs)) fs rows)
    (hheader : reader.hasHeader → fs'.head? = fs.head?)
    (hdata : reader.data fs' = places.map ((reader.data fs).getD · []))
    (hplaces : places.Perm (List.range (reader.data fs).length)) : widthOf fs' = widthOf fs := by
  cases hcase : reader.hasHeader with
  | true => rw [widthOf, hheader hcase, widthOf]
  | false =>
    simp only [Reader.data, hcase, Bool.false_eq_true, if_false] at hdata hplaces
    -- Without a header all records are moved, and the first one has the width of any other.
    have hperm : fs'.Perm fs := by
      have hmap := hplaces.map (fs.getD · [])
      rwa [← hdata, map_getD_range] at hmap
    cases hfs' : fs' with
    | nil =>
      obtain rfl : fs = [] := List.nil_perm.mp (hfs' ▸ hperm)
      rfl
    | cons fields rest =>
      have hmem : fields ∈ fs := hperm.subset (hfs' ▸ List.mem_cons_self)
      obtain ⟨row, -, hrow⟩ := exists_mem_of_forall₂ hrows hmem
      exact hrow.1

lemma titles_congr {rows' : List (List (List Char))}
    (h : reader.hasHeader → rows'.head? = rows.head?) :
    reader.titles width rows' = reader.titles width rows := by
  rw [Reader.titles, Reader.titles]
  split
  · next hheader => rw [h hheader]
  · rfl

lemma forall₂_data {α β : Type} {R : α → β → Prop} {xs : List α} {ys : List β}
    (h : List.Forall₂ R xs ys) : List.Forall₂ R (reader.data xs) (reader.data ys) := by
  rw [Reader.data, Reader.data]
  split
  · cases h with
    | nil => exact .nil
    | cons _ hrest => exact hrest
  · exact h

lemma eq_nil_of_widthOf_eq_zero (h : widthOf (fieldsOf separator bytes) = 0) :
    fieldsOf separator bytes = [] := by
  cases hfs : fieldsOf separator bytes with
  | nil => rfl
  | cons fields rest =>
    have hmem : fields ∈ fieldsOf separator bytes := hfs ▸ List.mem_cons_self
    obtain ⟨r, hr, rfl⟩ := List.mem_map.mp hmem
    rw [hfs] at h
    exact absurd (List.length_eq_zero_iff.mp h) (fields_ne_nil hr)

/-- A table that is read has a row for each record of data. It has no columns only if there are no records. -/
lemma height_eq (hrows : List.Forall₂ (Decodes (widthOf (fieldsOf reader.separator bytes)))
      (fieldsOf reader.separator bytes) rows)
    (hcolumns : t.columns = reader.columns (widthOf (fieldsOf reader.separator bytes)) rows) :
    t.height = (reader.data rows).length := by
  have hlength := congrArg List.length hcolumns
  rw [length_columns (widthOf_rows hrows)] at hlength
  rw [Table.height]
  cases hcase : t.columns with
  | nil =>
    rw [hcase] at hlength
    rw [eq_nil_of_widthOf_eq_zero hlength.symm, List.forall₂_nil_left_iff] at hrows
    rw [hrows, Reader.data, List.tail_nil, ite_self]
    rfl
  | cons c cs =>
    have hmem : c ∈ t.columns := hcase ▸ List.mem_cons_self
    rw [hcolumns] at hmem
    exact length_of_mem_columns hmem

/-- Of an input that is read, all records of data have as many fields as the table has columns, and there is
a row for each of them. Each column has the first form that reads all of its cells that are not empty: its
type is that of the form, and its values are what the form reads of the cells. An input with the same header
and with the records of data in another order gives the table with its rows in this order. -/
theorem read_infers (h : reader.read bytes = .ok t) :
    ∃ rows, List.Forall₂ (Decodes t.width) (reader.data (fieldsOf reader.separator bytes)) rows ∧
      t.height = rows.length ∧
      (∀ i c, t.columns[i]? = some c → ∃ form, reader.formOf? (cellsAt rows i) = some form ∧
        c = form.column c.name (cellsAt rows i)) ∧
      ∀ bytes' places, places.Perm (List.range t.height) →
        (reader.hasHeader →
          (fieldsOf reader.separator bytes').head? = (fieldsOf reader.separator bytes).head?) →
        reader.data (fieldsOf reader.separator bytes') =
          places.map ((reader.data (fieldsOf reader.separator bytes)).getD · []) →
        reader.read bytes' = .ok (t.take places) := by
  obtain ⟨rows, hrows, hcolumns⟩ := (read_eq_ok_iff rfl).mp h
  have hdecodes : List.Forall₂ (Decodes _) (reader.data _) (reader.data rows) := forall₂_data hrows
  have hwidth : t.width = widthOf (fieldsOf reader.separator bytes) := by
    rw [Table.width, hcolumns, length_columns (widthOf_rows hrows)]
  have hheight := height_eq hrows hcolumns
  refine ⟨reader.data rows, hwidth ▸ hdecodes, hheight, ?_, ?_⟩
  · intro i c hc
    obtain ⟨form, hform⟩ := exists_formOf? reader (cellsAt (reader.data rows) i)
    rw [hcolumns] at hc
    exact ⟨form, hform, (eq_column_of_getElem?_columns hc).trans (column_eq _ hform)⟩
  · intro bytes' places hplaces hheader hdata
    rw [hheight] at hplaces
    rw [← hdecodes.length_eq] at hplaces
    obtain ⟨rows', hrows', hheader', hdata'⟩ := exists_rows_of_data hrows hheader hdata
      fun place hplace => List.mem_range.mp (hplaces.subset hplace)
    have hwidth' := widthOf_eq_of_data hrows hheader hdata hplaces
    rw [hdecodes.length_eq] at hplaces
    refine (read_eq_ok_iff rfl).mpr ⟨rows', hwidth' ▸ hrows', ?_⟩
    rw [Table.columns_take, hcolumns, hwidth', columns_places (titles_congr hheader') hdata' hplaces]

/-- Numbers of two kinds, dates with a blank before one of them, and texts of which one looks like a truth
value and one like a number, each with a missing cell. The last record is put before the others. -/
theorem read_infers_unlike_cells :
    ∃ t : Table,
      Reader.read {} (Utf8.encode "n,day,note\n1, 2024-01-02,true\n,,7\n2.5,2024-01-03,\n".toList) =
        .ok t ∧
      t.columns.map Column.dtype = [.float64, .date, .utf8] ∧ t.height = 3 ∧
      Reader.read {} (Utf8.encode "n,day,note\n2.5,2024-01-03,\n1, 2024-01-02,true\n,,7\n".toList) =
        .ok (t.take [2, 0, 1]) := by
  let reader : Reader := {}
  let header : List (List Char) := ["n".toList, "day".toList, "note".toList]
  let rows : List (List (List Char)) := [["1".toList, " 2024-01-02".toList, "true".toList],
    [[], [], "7".toList], ["2.5".toList, "2024-01-03".toList, []]]
  let bytes := Utf8.encode "n,day,note\n1, 2024-01-02,true\n,,7\n2.5,2024-01-03,\n".toList
  let bytes' := Utf8.encode "n,day,note\n2.5,2024-01-03,\n1, 2024-01-02,true\n,,7\n".toList
  have hfs : fieldsOf reader.separator bytes = (header :: rows).map (List.map Utf8.encode) := by
    decide +kernel
  have hlength : ∀ row ∈ header :: rows, row.length = 3 := by decide +kernel
  have hrows : List.Forall₂ (Decodes 3) ((header :: rows).map (List.map Utf8.encode)) (header :: rows) :=
    List.forall₂_map_left_iff.mpr (List.forall₂_same.mpr fun row hrow =>
      ⟨(List.length_map _).trans (hlength row hrow),
        List.forall₂_map_left_iff.mpr (List.forall₂_same.mpr fun text _ => Utf8.decode_encode text)⟩)
  have hnames : ((reader.columns 3 (header :: rows)).map Column.name).Nodup := by decide +kernel
  have hdtypes : (reader.columns 3 (header :: rows)).map Column.dtype = [.float64, .date, .utf8] := by
    decide +kernel
  obtain ⟨t, ht⟩ := Table.exists_ofColumns_iff.mpr ⟨fun c hc d hd =>
    (length_of_mem_columns hc).trans (length_of_mem_columns hd).symm, hnames⟩
  have hcolumns := Table.ofColumns_eq_ok_iff.mp ht
  have hread : reader.read bytes = .ok t := (read_eq_ok_iff hfs).mpr ⟨_, hrows, hcolumns⟩
  obtain ⟨texts, htexts, hheight, -, hreordered⟩ := read_infers hread
  have hthree : t.height = 3 := by
    rw [hheight, ← htexts.length_eq, hfs]
    rfl
  refine ⟨t, hread, hcolumns ▸ hdtypes, hthree, hreordered bytes' [2, 0, 1] ?_ (fun _ => ?_) ?_⟩
  · rw [hthree]
    decide
  · decide +kernel
  · decide +kernel

end TimeTable.Csv
