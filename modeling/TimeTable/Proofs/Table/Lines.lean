import Mathlib.Tactic.Lemma
import TimeTable.Proofs.Column.Rows
import TimeTable.Proofs.Table.Columns
import TimeTable.Table.Display
import TimeTable.Text.Split
import TimeTable.Zone.Known

/-!
# Lines of tables

Each line of a table but the first one is a row of boxes, with a mark in front of each box and behind the
last one. The box of a cell and that of the rule have one width: a text takes no fewer bytes than it has
characters, so the width of a column, counted in bytes, leaves room for each of its texts, and filling up
by characters reaches it exactly. Hence the marks of all lines stand at the same places.
-/

namespace TimeTable

/-! ### Boxes -/

namespace Text

variable {mark : Char} {boxes boxes' : List (List Char)} {box s : List Char} {i j p q : Nat}

/-- Boxes with a mark in front of each and behind the last one. -/
def boxed (mark : Char) (boxes : List (List Char)) : List Char := boxes.flatMap (mark :: ·) ++ [mark]

@[simp] lemma boxed_nil (mark : Char) : boxed mark [] = [mark] := rfl

@[simp] lemma boxed_cons (mark : Char) (box : List Char) (boxes : List (List Char)) :
    boxed mark (box :: boxes) = mark :: (box ++ boxed mark boxes) := by
  simp [boxed]

/-- The places of the marks around boxes of the given lengths. -/
def marks : List Nat → List Nat
  | [] => [0]
  | length :: lengths => 0 :: (marks lengths).map (· + (length + 1))

@[simp] lemma length_marks (lengths : List Nat) : (marks lengths).length = lengths.length + 1 := by
  induction lengths with
  | nil => rfl
  | cons length lengths ih => simp [marks, ih]

lemma head?_marks (lengths : List Nat) : (marks lengths)[0]? = some 0 := by
  cases lengths <;> rfl

lemma length_boxed (mark : Char) (boxes : List (List Char)) :
    (boxed mark boxes).length = (boxes.map List.length).foldr (· + 1 + ·) 1 := by
  induction boxes with
  | nil => rfl
  | cons box boxes ih =>
    rw [boxed_cons, List.length_cons, List.length_append, ih, List.map_cons, List.foldr_cons]
    omega

/-- At the places of the marks there are marks. -/
lemma getElem?_boxed (h : p ∈ marks (boxes.map List.length)) : (boxed mark boxes)[p]? = some mark := by
  induction boxes generalizing p with
  | nil =>
    obtain rfl := List.mem_singleton.mp h
    rfl
  | cons box boxes ih =>
    rcases List.mem_cons.mp h with rfl | h
    · rw [boxed_cons]
      rfl
    · obtain ⟨p, hp, rfl⟩ := List.mem_map.mp h
      rw [boxed_cons, ← Nat.add_assoc, List.getElem?_cons_succ, List.getElem?_append_right (by omega),
        Nat.add_sub_cancel]
      exact ih hp

/-- Between two neighbouring marks there is a box. The induction is on the boxes; behind the first one every
place lies by its length and its mark further on. -/
lemma take_drop_boxed (hp : (marks (boxes.map List.length))[j]? = some p)
    (hq : (marks (boxes.map List.length))[j + 1]? = some q) (hbox : boxes[j]? = some box) :
    ((boxed mark boxes).drop (p + 1)).take (q - (p + 1)) = box := by
  induction boxes generalizing j p q with
  | nil => cases hbox
  | cons first boxes ih =>
    rw [List.map_cons, marks, List.getElem?_cons_succ, List.getElem?_map] at hq
    cases j with
    | zero =>
      rw [head?_marks] at hq
      obtain rfl := Option.some.inj hp
      obtain rfl := Option.some.inj hq
      obtain rfl := Option.some.inj hbox
      rw [boxed_cons]
      simp
    | succ j =>
      rw [List.map_cons, marks, List.getElem?_cons_succ, List.getElem?_map] at hp
      obtain ⟨p', hp', rfl⟩ := Option.map_eq_some_iff.mp hp
      obtain ⟨q', hq', rfl⟩ := Option.map_eq_some_iff.mp hq
      -- Past the first box and its mark all positions move by the same distance.
      have hdrop : p' + (first.length + 1) + 1 = (first.length + (p' + 1)) + 1 := by omega
      have htake : q' + (first.length + 1) - (p' + (first.length + 1) + 1) = q' - (p' + 1) := by omega
      rw [htake, hdrop, boxed_cons, List.drop_succ_cons, ← List.drop_drop, List.drop_left]
      exact ih hp' hq' hbox

/-- The places at which a character stands, in increasing order. -/
def positions (c : Char) (s : List Char) : List Nat :=
  (List.range s.length).filter fun i => s[i]? == some c

lemma positions_append (c : Char) (s t : List Char) :
    positions c (s ++ t) = positions c s ++ (positions c t).map (s.length + ·) := by
  rw [positions, List.length_append, List.range_add, List.filter_append, List.filter_map]
  congr 1
  · refine List.filter_congr fun i hi => ?_
    rw [List.getElem?_append_left (List.mem_range.mp hi)]
  · congr 1
    refine List.filter_congr fun i _ => ?_
    rw [Function.comp_apply, List.getElem?_append_right (Nat.le_add_right _ _), Nat.add_sub_cancel_left]

lemma positions_eq_nil {c : Char} (h : c ∉ s) : positions c s = [] := by
  refine List.filter_eq_nil_iff.mpr fun i _ hi => h ?_
  exact List.mem_of_getElem? (beq_iff_eq.mp hi)

/-- If no box holds the mark, it stands at the places of the marks only. -/
lemma positions_boxed (h : ∀ box ∈ boxes, mark ∉ box) :
    positions mark (boxed mark boxes) = marks (boxes.map List.length) := by
  have hmark : positions mark [mark] = [0] := by simp [positions, List.range_succ]
  induction boxes with
  | nil => exact hmark
  | cons box boxes ih =>
    rw [List.forall_mem_cons] at h
    rw [boxed_cons, ← List.singleton_append, positions_append, positions_append, hmark,
      positions_eq_nil h.1, ih h.2, List.nil_append, List.map_map]
    refine congrArg (0 :: ·) (List.map_congr_left fun i _ => ?_)
    simp only [Function.comp_apply, List.length_singleton]
    omega

/-! ### Lines -/

/-- What stands before the first separator is the first part. -/
lemma split_append {separator : Char} (h : separator ∉ s) (rest : List Char) :
    split separator (s ++ separator :: rest) = s :: split separator rest := by
  induction s with
  | nil => exact split_separator separator rest
  | cons c s ih =>
    rw [List.mem_cons, not_or] at h
    rw [List.cons_append, split, if_neg (Ne.symm h.1), ih h.2]

/-- A text of lines, each with its end, splits into these lines and nothing behind the last end. -/
lemma split_lines {lines : List (List Char)} (h : ∀ line ∈ lines, '\n' ∉ line) :
    split '\n' (lines.flatMap (· ++ ['\n'])) = lines ++ [[]] := by
  induction lines with
  | nil => rfl
  | cons line lines ih =>
    rw [List.forall_mem_cons] at h
    rw [List.flatMap_cons, List.append_assoc, List.singleton_append, split_append h.1, ih h.2,
      List.cons_append]

end Text

/-! ### Types -/

def DataType.zone? : DataType → Option Zone
  | datetime _ zone => zone
  | list inner => inner.zone?
  | _ => none

/-- A type is written on one line if the name of its zone is. -/
lemma DataType.not_mem_display {dtype : DataType} (h : ∀ zone ∈ dtype.zone?, '\n' ∉ zone.name.toList) :
    '\n' ∉ dtype.display.toList := by
  have hunit : ∀ unit : TimeUnit, '\n' ∉ unit.name.toList := by
    intro unit
    cases unit <;> decide
  induction dtype with
  | null | boolean | int64 | float64 | utf8 | date => decide
  | datetime unit zone =>
    cases zone with
    | none => simp [display, hunit]
    | some zone => simp [display, hunit, h zone rfl]
  | duration unit => simp [display, hunit]
  | list inner ih => simp [display, ih h]

/-- The names of the known zones are of one line. -/
lemma Zone.not_mem_name_of_known : ∀ zone ∈ known, '\n' ∉ zone.name.toList := by
  have hall : known.all fun zone => !zone.name.toList.contains '\n' := by decide
  intro zone hzone
  have hname := List.all_eq_true.mp hall zone hzone
  simpa using hname

namespace Table

open Text Zone

variable {c : Column} {columns : List Column} {s : List Char} {width n : Nat} {t : Table}

/-! ### Widths -/

lemma length_le_byteLength (s : List Char) : s.length ≤ byteLength s := by
  induction s with
  | nil => exact Nat.le_refl 0
  | cons c s ih =>
    have hsize : byteLength (c :: s) = c.utf8Size + byteLength s := rfl
    have hpos := c.utf8Size_pos
    rw [hsize, List.length_cons]
    omega

lemma le_foldl_max {f : List Char → Nat} {texts : List (List Char)} {m : Nat} :
    m ≤ texts.foldl (fun w s => max w (f s)) m ∧
      ∀ s ∈ texts, f s ≤ texts.foldl (fun w s => max w (f s)) m := by
  induction texts generalizing m with
  | nil => simp
  | cons s texts ih =>
    obtain ⟨hle, hall⟩ := ih (m := max m (f s))
    rw [List.foldl_cons, List.forall_mem_cons]
    exact ⟨by omega, by omega, hall⟩

/-- A column is wide enough for each of its texts. -/
lemma length_le_textWidth (h : s ∈ texts c) : s.length ≤ textWidth c :=
  Nat.le_trans (length_le_byteLength s) (le_foldl_max.2 s h)

lemma length_padEnd (h : s.length ≤ width) : (padEnd width s).length = width := by
  rw [padEnd, List.length_append, List.length_replicate]
  omega

/-! ### Lines of boxes -/

/-- Boxes with something in front of and behind each text. -/
lemma boxed_map_pad (mark : Char) (before after : List Char) {texts : List (List Char)}
    (h : texts ≠ []) :
    mark :: (before ++ (List.intercalate (after ++ mark :: before) texts ++ (after ++ [mark]))) =
      boxed mark (texts.map fun s => before ++ s ++ after) := by
  induction texts with
  | nil => exact absurd rfl h
  | cons s texts ih =>
    cases texts with
    | nil => simp
    | cons s' texts =>
      rw [List.map_cons, boxed_cons, ← ih (List.cons_ne_nil _ _), List.intercalate_cons_cons]
      simp

def textBox (width : Nat) (s : List Char) : List Char := [' '] ++ padEnd width s ++ [' ']

def ruleBox (width : Nat) : List Char := List.replicate (width + 2) '-'

/-- The line of the given texts of columns, without its end. -/
def textLine (columns : List Column) (text : Column → List Char) : List Char :=
  boxed '|' (columns.map fun c => textBox (textWidth c) (text c))

/-- The rule below the heads of columns, without its end. -/
def ruleLine (columns : List Column) : List Char :=
  boxed '+' (columns.map fun c => ruleBox (textWidth c))

lemma line_eq (h : columns ≠ []) (text : Column → List Char) :
    line (columns.map textWidth) (columns.map text) = textLine columns text ++ ['\n'] := by
  have hne : (columns.map fun c => padEnd (textWidth c) (text c)) ≠ [] := by simpa using h
  have hboxed := boxed_map_pad '|' [' '] [' '] hne
  rw [List.map_map] at hboxed
  have hline : textLine columns text = _ := hboxed.symm
  rw [line, List.zipWith_map, List.zipWith_self, hline]
  simp

lemma rule_eq (h : columns ≠ []) :
    rule (columns.map textWidth) = ruleLine columns ++ ['\n'] := by
  have hne : (columns.map fun c => ruleBox (textWidth c)) ≠ [] := by simpa using h
  have hboxed := boxed_map_pad '+' [] [] hne
  simp only [List.nil_append, List.append_nil, List.map_id'] at hboxed
  rw [ruleLine, ← hboxed, rule, List.map_map]
  simp [Function.comp_def, ruleBox]

lemma length_textBox (h : s.length ≤ width) : (textBox width s).length = width + 2 := by
  rw [textBox, List.length_append, List.length_append, length_padEnd h, List.length_singleton]
  omega

/-- The lengths of the boxes of texts that are no longer than their columns are wide. -/
lemma map_length_textBox {text : Column → List Char} (h : ∀ c ∈ columns, text c ∈ texts c) :
    (columns.map fun c => textBox (textWidth c) (text c)).map List.length =
      (columns.map fun c => ruleBox (textWidth c)).map List.length := by
  rw [List.map_map, List.map_map]
  refine List.map_congr_left fun c hc => ?_
  rw [Function.comp_apply, Function.comp_apply, length_textBox (length_le_textWidth (h c hc)), ruleBox,
    List.length_replicate]

lemma length_textLine {text : Column → List Char} (h : ∀ c ∈ columns, text c ∈ texts c) :
    (textLine columns text).length = (ruleLine columns).length := by
  rw [textLine, ruleLine, length_boxed, length_boxed, map_length_textBox h]

/-- A line has a separator at each mark, and between two neighbouring marks a cell with a blank in front of
it and at least one behind it. -/
structure LaidOut (marks : List Nat) (s : List Char) (cells : List (List Char)) : Prop where
  length_marks : marks.length = cells.length + 1
  separators : ∀ p ∈ marks, s[p]? = some '|'
  between : ∀ (j p q : Nat) (cell : List Char), marks[j]? = some p → marks[j + 1]? = some q →
    cells[j]? = some cell → ∃ blanks, (s.drop (p + 1)).take (q - (p + 1)) =
      ' ' :: (cell ++ List.replicate (blanks + 1) ' ')

lemma positions_ruleLine (columns : List Column) : positions '+' (ruleLine columns) =
    marks ((columns.map fun c => ruleBox (textWidth c)).map List.length) := by
  refine positions_boxed fun box hbox => ?_
  obtain ⟨c, -, rfl⟩ := List.mem_map.mp hbox
  simp [ruleBox]

lemma laidOut_textLine {text : Column → List Char} (h : ∀ c ∈ columns, text c ∈ texts c) :
    LaidOut (positions '+' (ruleLine columns)) (textLine columns text) (columns.map text) := by
  rw [positions_ruleLine, ← map_length_textBox h]
  refine ⟨by simp, fun p => getElem?_boxed, ?_⟩
  intro j p q cell hp hq hcell
  obtain ⟨c, hc, rfl⟩ := Option.map_eq_some_iff.mp (List.getElem?_map.symm.trans hcell)
  refine ⟨textWidth c - (text c).length, ?_⟩
  have hbox : (columns.map fun c => textBox (textWidth c) (text c))[j]? =
      some (textBox (textWidth c) (text c)) := by
    rw [List.getElem?_map, hc, Option.map_some]
  rw [textLine, take_drop_boxed hp hq hbox]
  simp [textBox, padEnd, List.replicate_succ']

/-! ### The lines of a table -/

/-- No text of a table holds the end of a line: neither a name nor a value, nor the name of a zone, which
none of the known zones does (`Zone.not_mem_name_of_known`). -/
structure WithoutBreaks (t : Table) : Prop where
  names : ∀ c ∈ t.columns, '\n' ∉ c.name.toList
  values : ∀ c ∈ t.columns, ∀ v ∈ c.toScalars, '\n' ∉ v.text
  zones : ∀ c ∈ t.columns, ∀ zone ∈ c.dtype.zone?, '\n' ∉ zone.name.toList

/-- The first line of a table, without its end. -/
def shape (t : Table) : List Char := s!"shape: ({t.height}, {t.width})".toList

/-- The lines of the rows of a table, without their ends. -/
def rowLines (t : Table) : List (List Char) :=
  (List.range t.height).map fun n => textLine t.columns fun c => (c.get n).text

/-- The lines of a table, without their ends. -/
def lines (t : Table) : List (List Char) :=
  shape t :: textLine t.columns (·.name.toList) :: textLine t.columns (·.dtype.display.toList) ::
    ruleLine t.columns :: rowLines t

lemma get_mem_toScalars (hc : c ∈ t.columns) (hn : n < t.height) : c.get n ∈ c.toScalars :=
  List.mem_of_getElem? (Column.getElem?_toScalars_eq_some_iff.mpr ⟨length_of_mem hc ▸ hn, rfl⟩)

lemma text_get_mem (hc : c ∈ t.columns) (hn : n < t.height) : (c.get n).text ∈ texts c :=
  List.mem_cons_of_mem _ (List.mem_cons_of_mem _ (List.mem_map_of_mem (get_mem_toScalars hc hn)))

lemma text_eq_flatMap_lines (h : t.columns ≠ []) : t.text = t.lines.flatMap (· ++ ['\n']) := by
  have hshape : shapeLine t = shape t ++ ['\n'] := by
    simp [shapeLine, shape, toString]
  -- The rows of the table are put together from the same columns as the lines above them.
  have hrows : (t.rows.map fun row => line (t.columns.map textWidth) (row.map Scalar.text)) =
      t.rowLines.map (· ++ ['\n']) := by
    rw [rows, rowLines, List.map_map, List.map_map]
    refine List.map_congr_left fun n _ => ?_
    rw [Function.comp_apply, Function.comp_apply, row, List.map_map]
    exact line_eq h _
  simp only [text]
  rw [if_neg (by simpa using h), hshape, line_eq h, line_eq h, rule_eq h, hrows, lines]
  simp [List.flatMap]

lemma not_mem_textLine {text : Column → List Char} (h : ∀ c ∈ columns, '\n' ∉ text c) :
    '\n' ∉ textLine columns text := by
  simpa [textLine, boxed, textBox, padEnd] using h

lemma not_mem_ruleLine (columns : List Column) : '\n' ∉ ruleLine columns := by
  simp [ruleLine, boxed, ruleBox]

lemma not_mem_shape (t : Table) : '\n' ∉ shape t := by
  have hdigits : ∀ n : Nat, '\n' ∉ Nat.toDigits 10 n := by
    intro n hmem
    have hdigit := Nat.isDigit_of_mem_toDigits (by decide) (by decide) hmem
    exact absurd hdigit (by decide)
  simp [shape, toString, hdigits]

lemma WithoutBreaks.not_mem_lines (h : t.WithoutBreaks) : ∀ line ∈ t.lines, '\n' ∉ line := by
  rw [lines]
  simp only [List.forall_mem_cons]
  refine ⟨not_mem_shape t, not_mem_textLine h.names, ?_, not_mem_ruleLine _, ?_⟩
  · exact not_mem_textLine fun c hc => DataType.not_mem_display (h.zones c hc)
  · intro line hline
    obtain ⟨n, hn, rfl⟩ := List.mem_map.mp hline
    exact not_mem_textLine fun c hc =>
      h.values c hc _ (get_mem_toScalars hc (List.mem_range.mp hn))

/-- The text of a table has four lines and one for each row, all but the first of one length. The separators
in the lines of names, of types and of values stand at the places of the marks of the rule. -/
theorem text_laidOut (hcolumns : t.columns ≠ []) (h : t.WithoutBreaks) : ∃ shape names types rule rows,
    split '\n' t.text = (shape :: names :: types :: rule :: rows) ++ [[]] ∧
    (shape :: names :: types :: rule :: rows).length = t.height + 4 ∧
    (∀ line ∈ names :: types :: rule :: rows, line.length = rule.length) ∧
    LaidOut (positions '+' rule) names (t.columns.map (·.name.toList)) ∧
    LaidOut (positions '+' rule) types (t.columns.map (·.dtype.display.toList)) ∧
    List.Forall₂ (LaidOut (positions '+' rule)) rows (t.rows.map (·.map Scalar.text)) := by
  have hsplit : split '\n' t.text = t.lines ++ [[]] := by
    rw [text_eq_flatMap_lines hcolumns, split_lines h.not_mem_lines]
  -- Every cell that is printed is among the texts by which the widths were chosen.
  have hnames : ∀ c ∈ t.columns, c.name.toList ∈ texts c := fun c _ => List.mem_cons_self
  have htypes : ∀ c ∈ t.columns, c.dtype.display.toList ∈ texts c :=
    fun c _ => List.mem_cons_of_mem _ List.mem_cons_self
  refine ⟨_, _, _, _, _, hsplit, ?_, ?_, laidOut_textLine hnames, laidOut_textLine htypes, ?_⟩
  · simp [rowLines]
  · simp only [List.forall_mem_cons]
    refine ⟨length_textLine hnames, length_textLine htypes, trivial, ?_⟩
    intro line hline
    obtain ⟨n, hn, rfl⟩ := List.mem_map.mp hline
    exact length_textLine fun c hc => text_get_mem hc (List.mem_range.mp hn)
  · rw [rows, rowLines, List.map_map, List.forall₂_map_left_iff, List.forall₂_map_right_iff,
      List.forall₂_same]
    intro n hn
    rw [Function.comp_apply, row, List.map_map]
    exact laidOut_textLine fun c hc => text_get_mem hc (List.mem_range.mp hn)

/-- A column of numbers whose name takes more bytes than its values, a column of texts of several bytes to
a character, and a column of instants in a zone. -/
theorem text_laidOut_several_bytes :
    ∃ t : Table, t.columns =
        [⟨"größe", .int64, [some 7, none]⟩, ⟨"名", .utf8, [some "東京→", some ""]⟩,
          ⟨"at", .datetime .milliseconds (some EuropeLondon.zone), [none, none]⟩] ∧
      t.columns ≠ [] ∧ t.WithoutBreaks ∧ ∃ shape names types rule rows,
        split '\n' t.text = (shape :: names :: types :: rule :: rows) ++ [[]] ∧
        (shape :: names :: types :: rule :: rows).length = t.height + 4 ∧
        (∀ line ∈ names :: types :: rule :: rows, line.length = rule.length) ∧
        LaidOut (positions '+' rule) names ["größe".toList, "名".toList, "at".toList] ∧
        LaidOut (positions '+' rule) types
          ["i64".toList, "str".toList, "datetime[ms, Europe/London]".toList] ∧
        List.Forall₂ (LaidOut (positions '+' rule)) rows
          [["7".toList, "東京→".toList, "null".toList], ["null".toList, [], "null".toList]] := by
  let t : Table :=
    { columns := [⟨"größe", .int64, [some 7, none]⟩, ⟨"名", .utf8, [some "東京→", some ""]⟩,
        ⟨"at", .datetime .milliseconds (some EuropeLondon.zone), [none, none]⟩]
      sameHeight := by simp [Column.SameHeight, Column.length]
      distinctNames := by simp [Column.DistinctNames] }
  have hcolumns : t.columns ≠ [] := List.cons_ne_nil _ _
  have hbreaks : t.WithoutBreaks := by
    refine ⟨?_, ?_, ?_⟩
    · simp [t]
    · have hseven : '\n' ∉ Numeral.ofNat 7 := by decide +kernel
      simp [t, Column.toScalars, DataType.toScalarOrNull, DataType.toScalar, Scalar.text, Numeral.ofInt,
        hseven]
    · have hlondon : EuropeLondon.zone ∈ known := List.mem_of_getElem? (i := 4) rfl
      simp [t, DataType.zone?, not_mem_name_of_known _ hlondon]
  have htypes : t.columns.map (·.dtype.display.toList) =
      ["i64".toList, "str".toList, "datetime[ms, Europe/London]".toList] := by decide +kernel
  have hvalues : t.rows.map (·.map Scalar.text) =
      [["7".toList, "東京→".toList, "null".toList], ["null".toList, [], "null".toList]] := by
    decide +kernel
  rw [← htypes, ← hvalues]
  exact ⟨t, rfl, hcolumns, hbreaks, text_laidOut hcolumns hbreaks⟩

end Table
end TimeTable
