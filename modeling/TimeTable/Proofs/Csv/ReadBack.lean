import TimeTable.Proofs.Calendar.Ticks
import TimeTable.Proofs.Column.Rows
import TimeTable.Proofs.Csv.Cells
import TimeTable.Proofs.Csv.Records
import TimeTable.Proofs.Table.Columns

/-!
# Tables that were written

A table that was written is read back, if each of its columns has a value and a type that its values
show. The type of a column is the first one that reads all of its cells, so each type has to read what
was written of its values, and the types before it have to refuse at least one of them.
-/

namespace TimeTable

/-! ### Written values -/

namespace DateTime

lemma visible_dateText (day : Int) : Text.Visible (dateText day) := by
  have hyear : Text.Visible (yearText (Calendar.dateOf day).year) := by
    rcases yearText_cases (Calendar.dateOf day).year with ⟨-, -, htext⟩ | ⟨-, htext⟩ | ⟨-, htext⟩
    · exact htext ▸ Numeral.visible_zeroPadded _ _
    · exact htext ▸ .cons (by decide) (Numeral.visible_zeroPadded _ _)
    · exact htext ▸ .cons (by decide) (Numeral.visible_zeroPadded _ _)
  have hpart : ∀ n, Text.Visible ('-' :: Numeral.zeroPadded 2 n) := fun n =>
    .cons (by decide) (Numeral.visible_zeroPadded _ _)
  rw [dateText]
  exact (hyear.append (hpart _)).append (hpart _)

lemma dateText_ne_nil (day : Int) : dateText day ≠ [] := by
  simp [dateText]

lemma visible_timeText (t : DateTime) : Text.Visible t.timeText := by
  have hfraction : ∀ nano, Text.Visible (fractionText nano) := by
    intro nano
    rw [fractionText]
    split
    · exact fun c hc => absurd hc List.not_mem_nil
    · split
      · exact .cons (by decide) (Numeral.visible_zeroPadded _ _)
      · split
        · exact .cons (by decide) (Numeral.visible_zeroPadded _ _)
        · exact .cons (by decide) (Numeral.visible_zeroPadded _ _)
  have hpart : ∀ n, Text.Visible (':' :: Numeral.zeroPadded 2 n) := fun n =>
    .cons (by decide) (Numeral.visible_zeroPadded _ _)
  rw [timeText]
  exact (((Numeral.visible_zeroPadded _ _).append (hpart _)).append (hpart _)).append (hfraction _)

lemma timeText_ne_nil (t : DateTime) : t.timeText ≠ [] := by
  simp [timeText]

/-- The blank between date and time is not trimmed. -/
lemma trim_text (t : DateTime) : Text.trim t.text = t.text := by
  have htext : t.text = dateText t.day ++ [' '] ++ t.timeText := by rw [text, List.append_assoc]; rfl
  rw [htext]
  exact Text.trim_of_visible_ends (visible_dateText t.day) (dateText_ne_nil t.day) (visible_timeText t)
    (timeText_ne_nil t)

end DateTime

namespace Csv

/-! ### Cells -/

/-- What is read of a cell that was written: its text without blank ends. -/
def cellText (dtype : DataType) (cell : Option dtype.Cell) : List Char :=
  Text.trim (fieldText (dtype.toScalarOrNull cell))

lemma cellText_none (dtype : DataType) : cellText dtype none = [] := by
  have hnull : dtype.toScalarOrNull none = .null := rfl
  rw [cellText, hnull]
  exact Text.trim_nil

lemma cellText_boolean (v : Bool) : cellText .boolean (some v) = (Scalar.boolean v).text := by
  cases v with
  | true => rfl
  | false => rfl

lemma cellText_int64 (v : Int64) : cellText .int64 (some v) = (Scalar.int64 v).text := by
  change Text.trim (Scalar.int64 v).text = (Scalar.int64 v).text
  rw [Scalar.text, Text.trim_of_visible (Numeral.visible_ofInt _)]

lemma cellText_date {day : Int32} (hrange : Calendar.inRange day.toInt) :
    cellText .date (some day) = (Scalar.date day).text := by
  change Text.trim (Scalar.date day).text = (Scalar.date day).text
  rw [text_date hrange, Text.trim_of_visible (DateTime.visible_dateText _)]

lemma text_datetime {unit : TimeUnit} {ticks : Int64} {t : DateTime}
    (h : unit.toDateTime? ticks = some t) : (Scalar.datetime ticks unit none).text = t.text := by
  have htext : Scalar.datetimeText ticks unit none = t.text := by
    rw [Scalar.datetimeText.eq_def, h]
  rw [Scalar.text, htext]

lemma cellText_datetime {unit : TimeUnit} {ticks : Int64} {t : DateTime}
    (h : unit.toDateTime? ticks = some t) : cellText (.datetime unit none) (some ticks) = t.text := by
  change Text.trim (Scalar.datetime ticks unit none).text = t.text
  rw [text_datetime h, DateTime.trim_text]

lemma cellText_utf8 {s : String} (h : Text.trim s.toList = s.toList) :
    cellText .utf8 (some s) = s.toList := by
  change Text.trim (Scalar.utf8 s).text = s.toList
  rw [Scalar.text, h]

section

variable {α β : Type} {text : Option α → List Char} {read : List Char → Option α}
  {read' : List Char → Option β} {cells : List (Option α)} {v : α}

/-- Cells are read back if each value is. -/
lemma readCells?_eq_some (hnone : text none = [])
    (h : ∀ v, some v ∈ cells → text (some v) ≠ [] ∧ read (text (some v)) = some v) :
    readCells? read (cells.map text) = some cells := by
  rw [readCells?, mapM_eq_some_iff, List.forall₂_map_left_iff, List.forall₂_same]
  intro cell hcell
  cases cell with
  | none => rw [hnone]; rfl
  | some v =>
    obtain ⟨hne, hread⟩ := h v hcell
    rw [if_neg (by rw [List.isEmpty_iff]; exact hne), hread, Option.map_some]

/-- Cells are refused if one value is. -/
lemma readCells?_eq_none (hv : some v ∈ cells) (hne : text (some v) ≠ [])
    (hread : read' (text (some v)) = none) : readCells? read' (cells.map text) = none := by
  rw [Option.eq_none_iff_forall_ne_some]
  intro vs hvs
  rw [readCells?, mapM_eq_some_iff] at hvs
  obtain ⟨y, -, hy⟩ := exists_mem_of_forall₂ hvs (List.mem_map_of_mem hv)
  rw [if_neg (by rw [List.isEmpty_iff]; exact hne), hread] at hy
  exact nomatch hy

lemma all_isEmpty_map_eq_false (hv : some v ∈ cells) (hne : text (some v) ≠ []) :
    (cells.map text).all List.isEmpty = false := by
  rw [List.all_eq_false]
  exact ⟨text (some v), List.mem_map_of_mem hv, by rw [List.isEmpty_iff]; exact hne⟩

end

/-! ### Columns -/

/-- Whether no type but that of texts reads a text. -/
def Refused (unit : TimeUnit) (s : List Char) : Prop :=
  readBoolean? s = none ∧ readInt? s = none ∧ Binary64.read? s = none ∧ readDate? s = none ∧
    Reader.readTicks? { unit := unit } s = none

/-- The columns that are read back: those with a value, of a type that is read. Days have to be in
range, and ticks have to come back from their date and time. Texts may not be empty or have blank ends,
and one of them has to look like nothing else. -/
inductive Restorable (unit : TimeUnit) : Column → Prop
  | boolean {name : String} {cells : List (Option Bool)} {v : Bool} (hv : some v ∈ cells) :
    Restorable unit ⟨name, .boolean, cells⟩
  | int64 {name : String} {cells : List (Option Int64)} {v : Int64} (hv : some v ∈ cells) :
    Restorable unit ⟨name, .int64, cells⟩
  | date {name : String} {cells : List (Option Int32)} {v : Int32} (hv : some v ∈ cells)
    (hrange : ∀ day : Int32, some day ∈ cells → Calendar.inRange day.toInt) :
    Restorable unit ⟨name, .date, cells⟩
  | datetime {name : String} {cells : List (Option Int64)} {v : Int64} (hv : some v ∈ cells)
    (hback : ∀ ticks, some ticks ∈ cells → (unit.toDateTime? ticks).bind unit.ofDateTime? = some ticks) :
    Restorable unit ⟨name, .datetime unit none, cells⟩
  | utf8 {name : String} {cells : List (Option String)} {v : String} (hv : some v ∈ cells)
    (hrefused : Refused unit v.toList)
    (htrim : ∀ s : String, some s ∈ cells → s.toList ≠ [] ∧ Text.trim s.toList = s.toList) :
    Restorable unit ⟨name, .utf8, cells⟩

section

variable {unit : TimeUnit} {name : String}

lemma column_boolean {cells : List (Option Bool)} {v : Bool} (hv : some v ∈ cells) :
    Reader.column { unit := unit } name (cells.map (cellText .boolean)) = ⟨name, .boolean, cells⟩ := by
  have hne : ∀ v : Bool, cellText .boolean (some v) ≠ [] := by decide
  have hread : readCells? readBoolean? (cells.map (cellText .boolean)) = some cells :=
    readCells?_eq_some (cellText_none _) fun v _ => ⟨hne v, by rw [cellText_boolean, readBoolean?_text]⟩
  simp only [Reader.column, all_isEmpty_map_eq_false hv (hne v), Bool.false_eq_true, if_false, hread]

lemma column_int64 {cells : List (Option Int64)} {v : Int64} (hv : some v ∈ cells) :
    Reader.column { unit := unit } name (cells.map (cellText .int64)) = ⟨name, .int64, cells⟩ := by
  have hne : ∀ v : Int64, cellText .int64 (some v) ≠ [] := by
    intro v
    obtain ⟨c, s, htext, -⟩ := exists_text_int64_eq_cons v
    rw [cellText_int64, htext]
    exact List.cons_ne_nil c s
  -- No integer is a truth value, so this first form is refused and the second one fits.
  have hboolean : readCells? readBoolean? (cells.map (cellText .int64)) = none := by
    refine readCells?_eq_none hv (hne v) ?_
    obtain ⟨c, s, htext, hc⟩ := exists_text_int64_eq_cons v
    rw [cellText_int64, htext, readBoolean?_eq_none hc]
  have hread : readCells? readInt? (cells.map (cellText .int64)) = some cells :=
    readCells?_eq_some (cellText_none _) fun v _ => ⟨hne v, by rw [cellText_int64, readInt?_text]⟩
  simp only [Reader.column, all_isEmpty_map_eq_false hv (hne v), Bool.false_eq_true, if_false, hboolean,
    hread]

lemma column_date {cells : List (Option Int32)} {v : Int32} (hv : some v ∈ cells)
    (hrange : ∀ day : Int32, some day ∈ cells → Calendar.inRange day.toInt) :
    Reader.column { unit := unit } name (cells.map (cellText .date)) = ⟨name, .date, cells⟩ := by
  have hne : ∀ day : Int32, some day ∈ cells → cellText .date (some day) ≠ [] := by
    intro day hday
    rw [cellText_date (hrange day hday), text_date (hrange day hday)]
    exact DateTime.dateText_ne_nil _
  have hbegins : BeginsDate (cellText .date (some v)) := by
    have hdate := beginsDate_dateText v.toInt []
    rwa [List.append_nil, ← text_date (hrange v hv), ← cellText_date (hrange v hv)] at hdate
  have hread : readCells? readDate? (cells.map (cellText .date)) = some cells :=
    readCells?_eq_some (cellText_none _) fun day hday =>
      ⟨hne day hday, by rw [cellText_date (hrange day hday), readDate?_text (hrange day hday)]⟩
  -- The forms are tried in order, and a text that begins like a date is none of those before.
  simp only [Reader.column, all_isEmpty_map_eq_false hv (hne v hv), Bool.false_eq_true, if_false,
    readCells?_eq_none hv (hne v hv) hbegins.readBoolean?,
    readCells?_eq_none hv (hne v hv) hbegins.readInt?,
    readCells?_eq_none hv (hne v hv) hbegins.read?_float, hread]

lemma column_datetime {cells : List (Option Int64)} {v : Int64} (hv : some v ∈ cells)
    (hback : ∀ ticks, some ticks ∈ cells → (unit.toDateTime? ticks).bind unit.ofDateTime? = some ticks) :
    Reader.column { unit := unit } name (cells.map (cellText (.datetime unit none))) =
      ⟨name, .datetime unit none, cells⟩ := by
  have hto : ∀ ticks, some ticks ∈ cells → ∃ t, unit.toDateTime? ticks = some t ∧
      unit.ofDateTime? t = some ticks ∧ Calendar.inRange t.day ∧ t.InTicks unit := by
    intro ticks hticks
    obtain ⟨t, hto, hof⟩ := Option.bind_eq_some_iff.mp (hback ticks hticks)
    exact ⟨t, hto, hof, (TimeUnit.tickOf_toDateTime? hto).2.2, TimeUnit.inTicks_of_toDateTime? hto⟩
  have hne : ∀ ticks, some ticks ∈ cells → cellText (.datetime unit none) (some ticks) ≠ [] := by
    intro ticks hticks
    obtain ⟨t, hto, -⟩ := hto ticks hticks
    rw [cellText_datetime hto]
    exact List.append_ne_nil_of_left_ne_nil (DateTime.dateText_ne_nil _) _
  have hread : readCells? (Reader.readTicks? { unit := unit })
      (cells.map (cellText (.datetime unit none))) = some cells := by
    refine readCells?_eq_some (cellText_none _) fun ticks hticks => ⟨hne ticks hticks, ?_⟩
    obtain ⟨t, hto, hof, hrange, hinticks⟩ := hto ticks hticks
    have hback := readDateTime?_text hrange hinticks.isReading hinticks.nano_lt
    rw [cellText_datetime hto, Reader.readTicks?, hback, Option.bind_some, hof]
  obtain ⟨t, ht, -, hrange, -⟩ := hto v hv
  have hbegins : BeginsDate (cellText (.datetime unit none) (some v)) := by
    rw [cellText_datetime ht]
    exact beginsDate_dateText t.day _
  have hdate : readDate? (cellText (.datetime unit none) (some v)) = none := by
    rw [cellText_datetime ht, readDate?_dateTimeText hrange]
  simp only [Reader.column, all_isEmpty_map_eq_false hv (hne v hv), Bool.false_eq_true, if_false,
    readCells?_eq_none hv (hne v hv) hbegins.readBoolean?,
    readCells?_eq_none hv (hne v hv) hbegins.readInt?,
    readCells?_eq_none hv (hne v hv) hbegins.read?_float, readCells?_eq_none hv (hne v hv) hdate, hread]

lemma column_utf8 {cells : List (Option String)} {v : String} (hv : some v ∈ cells)
    (hrefused : Refused unit v.toList)
    (htrim : ∀ s : String, some s ∈ cells → s.toList ≠ [] ∧ Text.trim s.toList = s.toList) :
    Reader.column { unit := unit } name (cells.map (cellText .utf8)) = ⟨name, .utf8, cells⟩ := by
  have htext : cellText .utf8 (some v) = v.toList := cellText_utf8 (htrim v hv).2
  have hne : cellText .utf8 (some v) ≠ [] := htext ▸ (htrim v hv).1
  obtain ⟨hboolean, hint, hfloat, hdate, hticks⟩ := htext ▸ hrefused
  have hcells : textCells (cells.map (cellText .utf8)) = cells := by
    rw [textCells, List.map_map]
    refine (List.map_congr_left fun cell hcell => ?_).trans (List.map_id cells)
    cases cell with
    | none => rw [Function.comp_apply, cellText_none]; rfl
    | some s =>
      obtain ⟨hne, htrim⟩ := htrim s hcell
      rw [Function.comp_apply, cellText_utf8 htrim, if_neg (by rw [List.isEmpty_iff]; exact hne),
        String.ofList_toList]
      rfl
  -- Some cell refuses every other form, and as text the cells are themselves.
  simp only [Reader.column, all_isEmpty_map_eq_false hv hne, Bool.false_eq_true, if_false,
    readCells?_eq_none hv hne hboolean, readCells?_eq_none hv hne hint, readCells?_eq_none hv hne hfloat,
    readCells?_eq_none hv hne hdate, readCells?_eq_none hv hne hticks, hcells]

/-- A column that was written is read back. -/
lemma column_of_restorable {c : Column} (h : Restorable unit c) :
    Reader.column { unit := unit } c.name (c.cells.map (cellText c.dtype)) = c := by
  cases h with
  | boolean hv => exact column_boolean hv
  | int64 hv => exact column_int64 hv
  | date hv hrange => exact column_date hv hrange
  | datetime hv hback => exact column_datetime hv hback
  | utf8 hv hrefused htrim => exact column_utf8 hv hrefused htrim

end

/-! ### Tables -/

/-- The fields of a table line by line: the names, then the rows. -/
def fieldTexts (t : Table) : List (List (List Char)) :=
  t.names.map String.toList :: t.rows.map (List.map fieldText)

lemma write_eq (t : Table) : write t = ((fieldTexts t).map writeRecord).flatten := by
  rw [write, fieldTexts, List.map_cons, List.flatten_cons, List.map_map]
  rfl

lemma length_of_mem_fieldTexts {t : Table} {texts : List (List Char)} (h : texts ∈ fieldTexts t) :
    texts.length = t.width := by
  rcases List.mem_cons.mp h with rfl | h
  · rw [List.length_map, Table.names, List.length_map, Table.width]
  · obtain ⟨row, hrow, rfl⟩ := List.mem_map.mp h
    obtain ⟨n, -, rfl⟩ := List.mem_map.mp hrow
    rw [List.length_map, Table.row, List.length_map, Table.width]

/-- A line begins with its first field, with a quote or with what ends an empty field. -/
lemma head?_writeRecord_append {c : Char} {text : List Char} (hc : c ∉ ['"', ',', '\n'])
    (htext : text.head? ≠ some c) (texts : List (List Char)) (rest : List Char) :
    (writeRecord (text :: texts) ++ rest).head? ≠ some c := by
  simp only [List.mem_cons, List.not_mem_nil, or_false, not_or] at hc
  obtain ⟨hquote, hcomma, hline⟩ := hc
  have hends : ∀ more : List Char, more.head? ≠ some c → (writeField text ++ more).head? ≠ some c := by
    intro more hmore
    rw [writeField]
    split
    -- What is put in quotes begins with a quote; any other field begins with its own first character.
    · exact fun h => hquote (Option.some.inj h).symm
    · cases text with
      | nil => exact hmore
      | cons d text => exact htext
  rw [writeRecord]
  split
  · exact fun h => hquote (Option.some.inj h).symm
  · cases texts with
    | nil =>
      rw [List.map_singleton, List.intercalate_singleton, List.append_assoc]
      exact hends _ fun h => hline (Option.some.inj h).symm
    | cons next texts =>
      rw [List.map_cons, List.map_cons, List.intercalate_cons_cons, List.append_assoc, List.append_assoc,
        List.append_assoc]
      exact hends _ fun h => hcomma (Option.some.inj h).symm

/-- The cells of the columns are found in the rows. -/
lemma columnCells_rows (t : Table) : columnCells t.width (t.rows.map (List.map fieldText)) =
    t.columns.map fun c => c.cells.map (cellText c.dtype) := by
  apply List.ext_getElem
  · rw [columnCells, List.length_map, List.length_range, List.length_map, Table.width]
  · intro i hi hi'
    rw [List.length_map] at hi'
    simp only [columnCells, List.getElem_map, List.getElem_range, Table.rows, List.map_map]
    conv_rhs => rw [Column.cells_eq_map_cell, List.map_map, Table.length_of_mem (List.getElem_mem hi')]
    refine List.map_congr_left fun n _ => ?_
    simp only [Function.comp_apply, Table.row, List.getElem?_map, List.getElem?_eq_getElem hi',
      Option.map_some, Option.getD_some]
    rfl

/-- The first record that was written has a field for each column. -/
lemma head?_records_write {t : Table} (hcolumns : t.columns ≠ [])
    (hmark : ((fieldTexts t).map writeRecord).flatten.head? ≠ some byteOrderMark) :
    ∃ r, (records comma (Utf8.encode (write t))).head? = some r ∧ r.fields.length = t.width := by
  have hlines : ∀ texts ∈ fieldTexts t, texts ≠ [] := fun texts htexts =>
    List.length_pos_iff.mp ((length_of_mem_fieldTexts htexts).symm ▸ List.length_pos_iff.mpr hcolumns)
  have hfields := congrArg List.head? (fields_records_write hlines hmark)
  rw [← write_eq, List.head?_map, fieldTexts, List.map_cons, List.head?_cons] at hfields
  obtain ⟨r, hr, hnames⟩ := Option.map_eq_some_iff.mp hfields
  refine ⟨r, hr, ?_⟩
  rw [hnames, List.length_map, List.length_map, Table.names, List.length_map, Table.width]

/-- What is read of records with a line of names. -/
lemma read_eq {reader : Reader} {bytes : List UInt8} {r : Record} {names : List (List Char)}
    {rows : List (List (List Char))} (hheader : reader.hasHeader)
    (hhead : (records reader.separator bytes).head? = some r)
    (hrows : (records reader.separator bytes).mapM (Record.texts r.fields.length) =
      .ok (names :: rows)) :
    reader.read bytes = Table.ofColumns
      (List.zipWith (fun name cells => reader.column (.ofList name) cells) (names.map Text.trim)
        (columnCells r.fields.length rows)) := by
  simp only [Reader.read, hhead, Option.map_some, Option.getD_some, hrows, ok_bind, Reader.split,
    hheader, if_true]

/-- A table that was written is read back with its names, types, values and missing cells, if its names
have no blank ends and do not begin with a byte order mark, and if its columns are ones that are read
back. -/
theorem read_write (unit : TimeUnit) (t : Table) (hcolumns : t.columns ≠ [])
    (hnames : ∀ c ∈ t.columns, Text.trim c.name.toList = c.name.toList ∧
      c.name.toList.head? ≠ some byteOrderMark)
    (hrestorable : ∀ c ∈ t.columns, Restorable unit c) :
    Reader.read { unit := unit } (Utf8.encode (write t)) = .ok t := by
  -- The file must not begin with the mark that is skipped: the header does not, quoted or not.
  have hmark : ((fieldTexts t).map writeRecord).flatten.head? ≠ some byteOrderMark := by
    obtain ⟨c, cs, hcons⟩ := List.exists_cons_of_ne_nil hcolumns
    rw [fieldTexts, List.map_cons, List.flatten_cons, Table.names, hcons, List.map_cons, List.map_cons]
    exact head?_writeRecord_append (by decide) (hnames c (hcons ▸ List.mem_cons_self)).2 _ _
  obtain ⟨r, hr, hwidth⟩ := head?_records_write hcolumns hmark
  have hrows : (records comma (Utf8.encode (write t))).mapM (Record.texts r.fields.length) =
      .ok (fieldTexts t) := by
    rw [write_eq, hwidth]
    exact mapM_texts_records_write (fun _ => length_of_mem_fieldTexts)
      (List.length_pos_iff.mpr hcolumns) hmark
  have htrim : (t.names.map String.toList).map Text.trim = t.columns.map fun c => c.name.toList := by
    rw [Table.names, List.map_map, List.map_map]
    exact List.map_congr_left fun c hc => (hnames c hc).1
  have hback : List.zipWith (fun name cells => Reader.column { unit := unit } (.ofList name) cells)
      ((t.names.map String.toList).map Text.trim)
      (columnCells r.fields.length (t.rows.map (List.map fieldText))) = t.columns := by
    rw [htrim, hwidth, columnCells_rows, List.zipWith_map, List.zipWith_self]
    refine (List.map_congr_left fun c hc => ?_).trans (List.map_id _)
    rw [String.ofList_toList]
    exact column_of_restorable (hrestorable c hc)
  have hheader : ({ unit := unit } : Reader).hasHeader := rfl
  have hread : Reader.read { unit := unit } (Utf8.encode (write t)) = Table.ofColumns t.columns :=
    (read_eq hheader hr hrows).trans (congrArg Table.ofColumns hback)
  rw [hread, Table.ofColumns_columns]

/-- Years before the first one and beyond the ninth thousand, a moment before 1970, a missing cell in
each column and a text that looks like a number but for its neighbour. -/
theorem read_write_notes :
    ∃ t : Table, t.columns = [⟨"day", .date, [some (-800000), none, some 3000000]⟩,
        ⟨"at", .datetime .milliseconds none, [none, some (-1), some 86400000]⟩,
        ⟨"a \"note\"", .utf8, [some "17", some "a, \"b\"\nc", none]⟩] ∧
      Reader.read { unit := .milliseconds } (Utf8.encode (write t)) = .ok t := by
  let t : Table :=
    { columns := [⟨"day", .date, [some (-800000), none, some 3000000]⟩,
        ⟨"at", .datetime .milliseconds none, [none, some (-1), some 86400000]⟩,
        ⟨"a \"note\"", .utf8, [some "17", some "a, \"b\"\nc", none]⟩]
      sameHeight := by simp [Column.SameHeight, Column.length]
      distinctNames := by simp [Column.DistinctNames] }
  have hdays : ∀ day : Int32, some day ∈ [some (-800000), none, some 3000000] →
      Calendar.inRange day.toInt := by
    intro day hday
    simp only [List.mem_cons, Option.some.injEq, reduceCtorEq, List.not_mem_nil, or_false,
      false_or] at hday
    rcases hday with rfl | rfl <;> decide
  have hticks : ∀ ticks : Int64, some ticks ∈ [none, some (-1), some 86400000] →
      (TimeUnit.milliseconds.toDateTime? ticks).bind TimeUnit.milliseconds.ofDateTime? = some ticks := by
    intro ticks hticks
    simp only [List.mem_cons, Option.some.injEq, reduceCtorEq, List.not_mem_nil, or_false,
      false_or] at hticks
    rcases hticks with rfl | rfl <;> rfl
  have hrefused : Refused .milliseconds "a, \"b\"\nc".toList := by
    refine ⟨?_, ?_, ?_, ?_, ?_⟩ <;> decide +kernel
  have htexts : ∀ s : String, some s ∈ [some "17", some "a, \"b\"\nc", none] →
      s.toList ≠ [] ∧ Text.trim s.toList = s.toList := by
    intro s hs
    simp only [List.mem_cons, Option.some.injEq, reduceCtorEq, List.not_mem_nil, or_false] at hs
    rcases hs with rfl | rfl <;> decide +kernel
  have hrestorable : ∀ c ∈ t.columns, Restorable .milliseconds c := by
    intro c hc
    simp only [t, List.mem_cons, List.not_mem_nil, or_false] at hc
    rcases hc with rfl | rfl | rfl
    · exact .date List.mem_cons_self hdays
    · exact .datetime (List.mem_cons_of_mem _ List.mem_cons_self) hticks
    · exact .utf8 (List.mem_cons_of_mem _ List.mem_cons_self) hrefused htexts
  exact ⟨t, rfl, read_write .milliseconds t (List.cons_ne_nil _ _) (by decide +kernel) hrestorable⟩

end Csv
end TimeTable
