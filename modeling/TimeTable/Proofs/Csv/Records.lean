import TimeTable.Csv.Record
import TimeTable.Csv.Writer
import TimeTable.Proofs.Outcome
import TimeTable.Proofs.Text.Utf8

/-!
# Records that were written

The scanner reads back the records that are written with commas between their fields. What one byte does
depends on the mode only, so the scanner is followed byte by byte through a field, then field by field
through a record, then record by record. A field without quotes has none of the bytes that end fields,
and the bytes of a quoted field cannot end it but for its closing quote.
-/

namespace TimeTable.Csv

def comma : UInt8 := 0x2C

namespace Scanner

/-- What a scanner has read, the places of the records apart. -/
structure At (s : Scanner) (mode : Mode) (field : List UInt8) (fields : List (List UInt8))
    (rows : List (List (List UInt8))) : Prop where
  mode : s.mode = mode
  field : s.field = field
  fields : s.fields = fields
  rows : s.records.map Record.fields = rows

/-- The modes in which a field begins. -/
def Begins (mode : Mode) : Prop := mode = .between ∨ mode = .fieldStart

/-- The modes in which a field can end. -/
def Ends (mode : Mode) : Prop := mode = .plain ∨ mode = .quoteSeen

/-- A byte that neither ends a field nor quotes one. -/
def IsPlain (b : UInt8) : Prop := b ≠ comma ∧ b ≠ quote ∧ isLineEnd b = false

variable {s : Scanner} {mode : Mode} {field : List UInt8} {fields : List (List UInt8)}
  {rows : List (List (List UInt8))} {b : UInt8} {bytes : List UInt8}

/-! ### One byte -/

lemma At.begin_plain (h : s.At mode [] fields rows) (hmode : Begins mode) (hb : IsPlain b) :
    (step comma s b).At .plain [b] fields rows := by
  obtain ⟨hcomma, hquote, hline⟩ := hb
  obtain ⟨hs, hfield, hfields, hrows⟩ := h
  rcases hmode with rfl | rfl
  · constructor <;>
      simp [step, count, hs, hfield, hfields, hrows, atRecord, atStart, unquoted, push, hcomma, hquote,
        hline]
  · constructor <;>
      simp [step, count, hs, hfield, hfields, hrows, atStart, unquoted, push, hcomma, hquote, hline]

lemma At.plain (h : s.At .plain field fields rows) (hb : IsPlain b) :
    (step comma s b).At .plain (b :: field) fields rows := by
  obtain ⟨hcomma, hquote, hline⟩ := hb
  obtain ⟨hs, hfield, hfields, hrows⟩ := h
  constructor <;> simp [step, count, hs, hfield, hfields, hrows, unquoted, push, hcomma, hline]

lemma At.begin_quoted (h : s.At mode [] fields rows) (hmode : Begins mode) :
    (step comma s quote).At .quoted [] fields rows := by
  obtain ⟨hs, hfield, hfields, hrows⟩ := h
  rcases hmode with rfl | rfl
  · constructor <;>
      simp [step, count, hs, hfield, hfields, hrows, atRecord, atStart, isLineEnd, quote, lineFeed,
        carriageReturn]
  · constructor <;> simp [step, count, hs, hfield, hfields, hrows, atStart]

lemma At.quoted (h : s.At .quoted field fields rows) (hb : b ≠ quote) :
    (step comma s b).At .quoted (b :: field) fields rows := by
  obtain ⟨hs, hfield, hfields, hrows⟩ := h
  constructor <;> simp [step, count, hs, hfield, hfields, hrows, push, hb]

lemma At.quote (h : s.At .quoted field fields rows) :
    (step comma s quote).At .quoteSeen field fields rows := by
  obtain ⟨hs, hfield, hfields, hrows⟩ := h
  constructor <;> simp [step, count, hs, hfield, hfields, hrows]

lemma At.quote_again (h : s.At .quoteSeen field fields rows) :
    (step comma s Csv.quote).At .quoted (Csv.quote :: field) fields rows := by
  obtain ⟨hs, hfield, hfields, hrows⟩ := h
  constructor <;> simp [step, count, hs, hfield, hfields, hrows, push]

lemma At.comma (h : s.At mode field fields rows) (hmode : Ends mode) :
    (step comma s comma).At .fieldStart [] (field.reverse :: fields) rows := by
  obtain ⟨hs, hfield, hfields, hrows⟩ := h
  rcases hmode with rfl | rfl
  · constructor <;> simp [step, count, hs, hfield, hfields, hrows, unquoted, endField]
  · constructor <;>
      simp [step, count, hs, hfield, hfields, hrows, unquoted, endField, Csv.comma, Csv.quote]

lemma At.begin_comma (h : s.At mode [] fields rows) (hmode : Begins mode) :
    (step Csv.comma s Csv.comma).At .fieldStart [] ([] :: fields) rows := by
  obtain ⟨hs, hfield, hfields, hrows⟩ := h
  rcases hmode with rfl | rfl
  · constructor <;>
      simp [step, count, hs, hfield, hfields, hrows, atRecord, atStart, unquoted, endField, isLineEnd,
        Csv.comma, Csv.quote, lineFeed, carriageReturn]
  · constructor <;>
      simp [step, count, hs, hfield, hfields, hrows, atStart, unquoted, endField, Csv.comma, Csv.quote]

lemma At.lineFeed (h : s.At mode field fields rows) (hmode : Ends mode) :
    (step Csv.comma s lineFeed).At .between [] [] ((field.reverse :: fields).reverse :: rows) := by
  obtain ⟨hs, hfield, hfields, hrows⟩ := h
  rcases hmode with rfl | rfl
  · constructor <;>
      simp [step, count, hs, hfield, hfields, hrows, unquoted, endLine, endRecord, endField, isLineEnd,
        Csv.comma, Csv.lineFeed, carriageReturn]
  · constructor <;>
      simp [step, count, hs, hfield, hfields, hrows, unquoted, endLine, endRecord, endField, isLineEnd,
        Csv.comma, Csv.quote, Csv.lineFeed, carriageReturn]

lemma At.begin_lineFeed (h : s.At .fieldStart [] fields rows) :
    (step Csv.comma s Csv.lineFeed).At .between [] [] (([] :: fields).reverse :: rows) := by
  obtain ⟨hs, hfield, hfields, hrows⟩ := h
  constructor <;>
    simp [step, count, hs, hfield, hfields, hrows, atStart, unquoted, endLine, endRecord, endField,
      isLineEnd, Csv.comma, Csv.quote, Csv.lineFeed, carriageReturn]

/-! ### Fields -/

lemma At.foldl_plain (h : s.At .plain field fields rows) (hbytes : ∀ b ∈ bytes, IsPlain b) :
    (bytes.foldl (step Csv.comma) s).At .plain (bytes.reverse ++ field) fields rows := by
  induction bytes generalizing s field with
  | nil => exact h
  | cons b bytes ih =>
    rw [List.forall_mem_cons] at hbytes
    rw [List.foldl_cons, List.reverse_cons, List.append_assoc]
    exact ih (h.plain hbytes.1) hbytes.2

lemma At.foldl_quoted (h : s.At .quoted field fields rows) (hbytes : ∀ b ∈ bytes, b ≠ Csv.quote) :
    (bytes.foldl (step Csv.comma) s).At .quoted (bytes.reverse ++ field) fields rows := by
  induction bytes generalizing s field with
  | nil => exact h
  | cons b bytes ih =>
    rw [List.forall_mem_cons] at hbytes
    rw [List.foldl_cons, List.reverse_cons, List.append_assoc]
    exact ih (h.quoted hbytes.1) hbytes.2

/-- Inside quotes everything is read as it was, each pair of quotes as one. -/
lemma At.foldl_doubled (h : s.At .quoted field fields rows) (text : List Char) :
    ((Utf8.encode (text.flatMap fun c => if c = '"' then ['"', '"'] else [c])).foldl
      (step Csv.comma) s).At .quoted ((Utf8.encode text).reverse ++ field) fields rows := by
  -- The field read so far is general in the induction, as each character of the text comes behind it.
  induction text generalizing s field with
  | nil => exact h
  | cons c text ih =>
    rw [List.flatMap_cons, Utf8.encode_append, Utf8.encode_cons, List.foldl_append, List.reverse_append,
      List.append_assoc]
    by_cases hc : c = '"'
    · subst hc
      exact ih h.quote.quote_again
    -- The scanner looks at bytes, and a byte of a longer character is never that of a quote.
    · rw [if_neg hc]
      have hquote : ∀ b ∈ Utf8.encode [c], b ≠ Csv.quote := by
        rintro b hb rfl
        rw [Utf8.encode_cons, Utf8.encode_nil, List.append_nil,
          Utf8.mem_encodeChar_ascii (by decide)] at hb
        exact hc (Char.toNat_inj.mp hb)
      have hread := h.foldl_quoted hquote
      rw [Utf8.encode_cons, Utf8.encode_nil, List.append_nil] at hread ⊢
      exact ih hread

lemma isPlain_of_mem {text : List Char} (h : needsQuotes text = false) (hb : b ∈ Utf8.encode text) :
    IsPlain b := by
  obtain ⟨c, hc, hmem⟩ := List.mem_flatMap.mp hb
  rw [needsQuotes, List.any_eq_false] at h
  have hplain := h c hc
  simp only [Bool.or_eq_true, beq_iff_eq, not_or] at hplain
  obtain ⟨⟨⟨hcomma, hquote⟩, hfeed⟩, hreturn⟩ := hplain
  -- A mark is a character of one byte, so it is no part of another character.
  have hne : ∀ c' : Char, c'.toNat < 0x80 → c ≠ c' → b ≠ c'.toNat.toUInt8 := by
    rintro c' hc' hne rfl
    rw [Utf8.mem_encodeChar_ascii (by rw [Utf8.toNat_toUInt8 (by omega)]; exact hc'),
      Utf8.toNat_toUInt8 (by omega)] at hmem
    exact hne (Char.toNat_inj.mp hmem)
  refine ⟨hne ',' (by decide) hcomma, hne '"' (by decide) hquote, ?_⟩
  rw [isLineEnd, Bool.or_eq_false_iff, beq_eq_false_iff_ne, beq_eq_false_iff_ne]
  exact ⟨hne '\n' (by decide) hfeed, hne '\r' (by decide) hreturn⟩

/-- A field that is not empty is read up to its end. -/
lemma At.foldl_writeField {text : List Char} (h : s.At mode [] fields rows) (hmode : Begins mode)
    (htext : text ≠ []) :
    ∃ mode', Ends mode' ∧ ((Utf8.encode (writeField text)).foldl (step Csv.comma) s).At mode'
      (Utf8.encode text).reverse fields rows := by
  rw [writeField]
  split
  · refine ⟨.quoteSeen, .inr rfl, ?_⟩
    have hread := (h.begin_quoted hmode).foldl_doubled text
    rw [List.append_nil] at hread
    rw [quoteField, Utf8.encode_append, Utf8.encode_cons, List.foldl_append, List.foldl_append]
    exact hread.quote
  · next hplain =>
    rw [Bool.not_eq_true] at hplain
    refine ⟨.plain, .inl rfl, ?_⟩
    cases hbytes : Utf8.encode text with
    | nil => exact absurd (Utf8.encode_eq_nil_iff.mp hbytes) htext
    | cons b bytes =>
      have hall : ∀ b' ∈ b :: bytes, IsPlain b' := fun b' hb' => isPlain_of_mem hplain (hbytes ▸ hb')
      rw [List.forall_mem_cons] at hall
      rw [List.foldl_cons, List.reverse_cons]
      exact (h.begin_plain hmode hall.1).foldl_plain hall.2

/-! ### Records -/

/-- The fields of a record with commas between them and a line feed behind. A line feed at once would be
an empty line, so a record does not begin like this if it is a single empty field. -/
lemma At.foldl_fields {texts : List (List Char)} (h : s.At mode [] fields rows) (htexts : texts ≠ [])
    (hmode : mode = .fieldStart ∨ mode = .between ∧ texts ≠ [[]]) :
    ((Utf8.encode ([','].intercalate (texts.map writeField) ++ ['\n'])).foldl (step Csv.comma) s).At
      .between [] [] ((fields.reverse ++ texts.map Utf8.encode) :: rows) := by
  -- An empty field may come first in a line only if others follow: a line of nothing is skipped.
  induction texts generalizing s mode fields with
  | nil => exact absurd rfl htexts
  | cons text texts ih =>
    have hbegins : Begins mode := hmode.elim .inr fun h => .inl h.1
    cases texts with
    | nil =>
      rw [List.map_singleton, List.intercalate_singleton, Utf8.encode_append, List.foldl_append]
      -- There is nothing to scan of an empty last field: the line feed itself closes it.
      by_cases htext : text = []
      · subst htext
        obtain rfl := hmode.resolve_right fun h => h.2 rfl
        have hread := h.begin_lineFeed
        rw [List.reverse_cons] at hread
        exact hread
      · obtain ⟨mode', hends, hread⟩ := h.foldl_writeField hbegins htext
        have hline := hread.lineFeed hends
        rw [List.reverse_reverse, List.reverse_cons] at hline
        exact hline
    | cons next texts =>
      have hfirst : ((Utf8.encode (writeField text ++ [','])).foldl (step Csv.comma) s).At .fieldStart []
          (Utf8.encode text :: fields) rows := by
        rw [Utf8.encode_append, List.foldl_append]
        by_cases htext : text = []
        · subst htext
          exact h.begin_comma hbegins
        · obtain ⟨mode', hends, hread⟩ := h.foldl_writeField hbegins htext
          have hcomma := hread.comma hends
          rw [List.reverse_reverse] at hcomma
          exact hcomma
      have hrest := ih hfirst (List.cons_ne_nil _ _) (.inl rfl)
      rw [List.map_cons, List.map_cons, List.intercalate_cons_cons, List.append_assoc,
        Utf8.encode_append, List.foldl_append]
      rw [List.reverse_cons, List.append_assoc] at hrest
      exact hrest

lemma At.foldl_writeRecord {texts : List (List Char)} (h : s.At .between [] [] rows)
    (htexts : texts ≠ []) :
    ((Utf8.encode (writeRecord texts)).foldl (step Csv.comma) s).At .between [] []
      (texts.map Utf8.encode :: rows) := by
  rw [writeRecord]
  split
  -- A record of one empty field is written as quotes, as its line would be skipped.
  · next hempty =>
    rw [Bool.and_eq_true, List.all_eq_true, decide_eq_true_eq] at hempty
    obtain ⟨text, rfl⟩ := List.length_eq_one_iff.mp
      (Nat.le_antisymm hempty.2 (List.length_pos_iff.mpr htexts))
    obtain rfl := List.isEmpty_iff.mp (hempty.1 text List.mem_cons_self)
    exact ((h.begin_quoted (.inl rfl)).quote).lineFeed (.inr rfl)
  · next hfull =>
    refine h.foldl_fields htexts (.inr ⟨rfl, ?_⟩)
    rintro rfl
    exact hfull rfl

/-- The records of lines that were written, in reverse like the scanner keeps them. -/
lemma At.foldl_writeRecords {lines : List (List (List Char))} (h : s.At .between [] [] rows)
    (hlines : ∀ texts ∈ lines, texts ≠ []) :
    ((Utf8.encode (lines.map writeRecord).flatten).foldl (step Csv.comma) s).At .between [] []
      ((lines.map (List.map Utf8.encode)).reverse ++ rows) := by
  induction lines generalizing s rows with
  | nil => exact h
  | cons texts lines ih =>
    rw [List.forall_mem_cons] at hlines
    rw [List.map_cons, List.flatten_cons, Utf8.encode_append, List.foldl_append, List.map_cons,
      List.reverse_cons, List.append_assoc]
    exact ih (h.foldl_writeRecord hlines.1) hlines.2

end Scanner

/-- The mark that may stand before a text to tell the order of its bytes. -/
def byteOrderMark : Char := '\uFEFF'

/-- Only the byte order mark has the bytes of one. -/
lemma dropMark_encode {s : List Char} (h : s.head? ≠ some byteOrderMark) :
    dropMark (Utf8.encode s) = (0, Utf8.encode s) := by
  rw [dropMark.eq_def]
  split
  · next rest hbytes =>
    have hdecode := Utf8.decode_encode s
    rw [hbytes, Utf8.decode,
      Utf8.decodeFrom_triple (c := byteOrderMark) (by decide) (by decide) (by decide),
      map_eq_ok] at hdecode
    obtain ⟨text, -, rfl⟩ := hdecode
    exact absurd rfl h
  · rfl

/-- The records that were written are read back. -/
lemma fields_records_write {lines : List (List (List Char))} (hlines : ∀ texts ∈ lines, texts ≠ [])
    (hmark : (lines.map writeRecord).flatten.head? ≠ some byteOrderMark) :
    (records comma (Utf8.encode (lines.map writeRecord).flatten)).map Record.fields =
      lines.map (List.map Utf8.encode) := by
  have hstart : (Scanner.initial 0).At .between [] [] [] := ⟨rfl, rfl, rfl, rfl⟩
  obtain ⟨hmode, -, -, hrows⟩ := hstart.foldl_writeRecords hlines
  simp only [records, dropMark_encode hmark, Scanner.finish, hmode]
  rw [List.map_reverse, hrows, List.append_nil, List.reverse_reverse]

/-! ### Texts -/

lemma textsFrom_encode (place : RecordPlace) (n : Nat) (texts : List (List Char)) :
    Record.textsFrom place n (texts.map Utf8.encode) = .ok texts := by
  induction texts generalizing n with
  | nil => rfl
  | cons text texts ih =>
    rw [List.map_cons, Record.textsFrom, Utf8.decode_encode]
    simp only [ih, ok_bind]

/-- The lines of a width that were written are read back as the texts of their fields. -/
lemma mapM_texts_records_write {lines : List (List (List Char))} {width : Nat}
    (hwidth : ∀ texts ∈ lines, texts.length = width) (hpos : 0 < width)
    (hmark : (lines.map writeRecord).flatten.head? ≠ some byteOrderMark) :
    (records comma (Utf8.encode (lines.map writeRecord).flatten)).mapM (Record.texts width) =
      .ok lines := by
  have hfields := fields_records_write
    (fun texts htexts => List.length_pos_iff.mp ((hwidth texts htexts).symm ▸ hpos)) hmark
  have hread : List.Forall₂ (fun texts r => texts.map Utf8.encode = Record.fields r) lines
      (records comma (Utf8.encode (lines.map writeRecord).flatten)) := by
    rw [← List.forall₂_map_right_iff, ← List.forall₂_map_left_iff, hfields]
    exact List.forall₂_refl _
  refine mapM_eq_ok_iff.mpr (List.Forall₂.flip ((forall₂_with_mem hread).imp ?_))
  rintro texts r ⟨htexts, hr⟩
  have hlength : r.fields.length = width := by rw [← hr, List.length_map, hwidth texts htexts]
  change Record.texts width r = .ok texts
  rw [Record.texts, if_pos hlength, ← hr, textsFrom_encode]

end TimeTable.Csv
