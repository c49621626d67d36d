import TimeTable.Plan.Run
import TimeTable.Proofs.Expr.Rows
import TimeTable.Proofs.Expr.Scope
import TimeTable.Proofs.Places

namespace TimeTable

variable {t u out : Table} {p : Expr} {c : Column} {rows : List Nat}

/-- Whether a value is the truth value of what holds. -/
def Scalar.isTrue : Scalar → Bool
  | boolean v => v
  | _ => false

namespace Column

/-- Whether a column can tell rows to keep: it has truth values, or no values at all. -/
def IsMask (c : Column) : Prop := c.dtype = .boolean ∨ c.dtype = .null

def heldRows (c : Column) : List Nat := (List.range c.length).filter fun row => (c.get row).isTrue

lemma isTrue_boolean (cell : Option Bool) :
    (DataType.boolean.toScalarOrNull cell).isTrue = (cell == some true) := by
  match cell with
  | none => rfl
  | some true => rfl
  | some false => rfl

lemma heldRows_boolean (name : String) (cells : List (Option Bool)) :
    heldRows ⟨name, .boolean, cells⟩ = trueRows cells := by
  refine List.filter_congr fun row hrow => ?_
  have hvalue : (get ⟨name, .boolean, cells⟩ row).isTrue = (cells[row]?.join == some true) :=
    isTrue_boolean _
  rw [hvalue, List.getElem?_eq_getElem (List.mem_range.mp hrow), Option.join_some]
  rfl

lemma heldRows_null (name : String) (cells : List (Option Empty)) :
    heldRows ⟨name, .null, cells⟩ = [] := by
  rw [heldRows, List.filter_eq_nil_iff]
  intro row _
  rw [get]
  cases cell ⟨name, .null, cells⟩ row with
  | none => exact Bool.false_ne_true
  | some x => exact x.elim

end Column

/-- Whether a predicate holds in a row, by its column. -/
def Expr.holdsAt (p : Expr) (c : Column) (row : Nat) : Bool :=
  (c.get (Column.rowAt p.isScalar row)).isTrue

namespace Table

/-- The rows of a table in which a predicate holds, by its column. -/
def keptRows (t : Table) (p : Expr) (c : Column) : List Nat :=
  (List.range t.height).filter (p.holdsAt c)

lemma lt_of_mem_keptRows {row : Nat} (h : row ∈ t.keptRows p c) : row < t.height :=
  List.mem_range.mp (List.mem_of_mem_filter h)

lemma heldRows_broadcast (hc : p.evaluate t = .ok c) :
    (c.broadcast t.height).heldRows = t.keptRows p c := by
  have hlength := (Expr.evaluate_shaped hc).length_eq
  rw [Column.heldRows, Column.length_broadcast hlength]
  refine List.filter_congr fun row hrow => ?_
  rw [Expr.holdsAt, Column.get_broadcast hlength (List.mem_range.mp hrow)]

/-- A table is filtered if the column of the predicate tells rows to keep. -/
lemma filter_eq_ok_iff :
    t.filter p = .ok out ↔
      ∃ c, p.evaluate t = .ok c ∧ c.IsMask ∧ out = t.take (t.keptRows p c) := by
  rw [filter, bind_eq_ok]
  refine exists_congr fun c => and_congr_right fun hc => ?_
  -- Whether a column is a mask and which rows it holds do not change when a single row is repeated.
  rw [← heldRows_broadcast hc, Column.IsMask, ← Column.dtype_broadcast c t.height]
  generalize c.broadcast t.height = mask
  obtain ⟨name, dtype, cells⟩ := mask
  cases dtype with
  | boolean =>
    rw [Column.heldRows_boolean]
    exact ⟨fun h => ⟨.inl rfl, (Except.ok.inj h).symm⟩, fun h => congrArg _ h.2.symm⟩
  | null =>
    rw [Column.heldRows_null]
    exact ⟨fun h => ⟨.inr rfl, (Except.ok.inj h).symm⟩, fun h => congrArg _ h.2.symm⟩
  -- A column of any other type is refused.
  | _ =>
    constructor
    · intro h
      exact nomatch h
    · rintro ⟨h | h, -⟩
      · exact nomatch h
      · exact nomatch h

/-- On rows that are taken a predicate keeps the places of those in which it holds. -/
lemma keptRows_onRows (hu : u.height = rows.length) :
    u.keptRows p (c.onRows p.isScalar rows) = keptPlaces (p.holdsAt c) 0 rows := by
  rw [keptRows, hu]
  refine List.filter_congr fun i hi => ?_
  rw [Expr.holdsAt, Column.get_onRows (getElem?_eq_some_getD (List.mem_range.mp hi) 0)]
  rfl

/-- Rows of a table are filtered by the column of the predicate on the table itself. -/
lemma filter_take_eq_ok_iff (hrowwise : p.isRowwise) (hrows : ∀ row ∈ rows, row < t.height)
    (hc : p.evaluate t = .ok c) :
    (t.take rows).filter p = .ok out ↔ c.IsMask ∧ out = t.take (rows.filter (p.holdsAt c)) := by
  have htake : (t.take rows).take (keptPlaces (p.holdsAt c) 0 rows) =
      t.take (rows.filter (p.holdsAt c)) := by
    rw [take_take fun i hi => getElem?_eq_some_getD (lt_of_mem_keptPlaces hi) 0, map_getD_keptPlaces]
  rw [filter_eq_ok_iff, Expr.evaluate_onRows hrowwise hrows hc]
  constructor
  · rintro ⟨_, hd, hmask, rfl⟩
    obtain rfl := Except.ok.inj hd
    rw [Column.IsMask, Column.dtype_onRows] at hmask
    rw [keptRows_onRows (height_take_of_lt hrows), htake]
    exact ⟨hmask, rfl⟩
  · rintro ⟨hmask, rfl⟩
    refine ⟨_, rfl, ?_, ?_⟩
    · rw [Column.IsMask, Column.dtype_onRows]
      exact hmask
    · rw [keptRows_onRows (height_take_of_lt hrows), htake]

end Table

lemma Plan.run_filter_eq_ok_iff {input : Plan} :
    (Plan.filter input p).run = .ok out ↔ ∃ t, input.run = .ok t ∧ t.filter p = .ok out := by
  rw [run, bind_eq_ok]

end TimeTable
