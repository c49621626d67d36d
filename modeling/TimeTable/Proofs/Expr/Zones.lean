import TimeTable.Proofs.Column.Readings
import TimeTable.Proofs.Expr.Shape

/-!
# Where zones come from

Instants are in a zone only if they were in one before or have been put into one by its name: no operation,
comparison or reduction finds a zone by itself. So the column of an expression has a zone only if one of the
columns of the table has, or the expression names one or holds an instant in one.
-/

namespace TimeTable

variable {schema : String → Option DataType} {dtype target : DataType} {e : Expr} {op : TemporalOp}
  {func : Reducer} {t : Table} {c : Column}

/-- That an operation puts instants into a zone that it names. -/
def TemporalOp.NamesZone : TemporalOp → Prop
  | withTimeZone _ | castTimeZone _ | tzLocalize _ => True
  | _ => False

/-- That an expression names a zone or holds an instant in one. -/
def Expr.NamesZone : Expr → Prop
  | col _ => False
  | lit value => value.dtype.IsZoned
  | named input _ | reduce input _ => input.NamesZone
  | temporal input op => input.NamesZone ∨ op.NamesZone
  | compare left _ right | arithmetic left _ right => left.NamesZone ∨ right.NamesZone

/-- That a table has a column of instants in a zone. -/
def Table.HasZone (t : Table) : Prop := ∃ c ∈ t.columns, c.dtype.IsZoned

lemma Table.hasZone_of_take {rows : List Nat} (h : (t.take rows).HasZone) : t.HasZone := by
  obtain ⟨c, hc, hzoned⟩ := h
  obtain ⟨d, hd, rfl⟩ := List.mem_map.mp hc
  exact ⟨d, hd, Column.dtype_take d rows ▸ hzoned⟩

lemma DataType.not_isZoned_of_written (h : dtype.written? = some target) : ¬target.IsZoned := by
  cases dtype with
  | date | datetime unit zone => exact Option.some.inj h ▸ id
  | _ => cases h

lemma DataType.isZoned_of_shifted {shift : Shift} (h : dtype.shifted? shift = some target)
    (hzoned : target.IsZoned) : dtype.IsZoned := by
  cases dtype with
  | date | datetime unit zone =>
    rw [shifted?, Option.ite_none_left_eq_some] at h
    exact Option.some.inj h.2 ▸ hzoned
  | _ => cases h

/-- An operation gives instants in a zone only if it names the zone, or was given such instants. -/
lemma TemporalOp.isZoned_or_namesZone (h : op.outputType? dtype = some target)
    (hzoned : target.IsZoned) : dtype.IsZoned ∨ op.NamesZone := by
  cases op with
  -- To name a zone is enough, whether the instants were in one before or not.
  | withTimeZone name | castTimeZone name | tzLocalize name => exact .inr trivial
  | withTimeUnit unit | castTimeUnit unit =>
    cases dtype with
    | datetime stored zone =>
      obtain rfl := Option.some.inj h
      cases zone with
      | none => exact absurd hzoned id
      | some zone => exact .inl trivial
    | duration stored =>
      obtain rfl := Option.some.inj h
      exact absurd hzoned id
    | _ => cases h
  | strftime pattern =>
    obtain ⟨-, -, hwritten⟩ := Option.bind_eq_some_iff.mp h
    exact absurd hzoned (DataType.not_isZoned_of_written hwritten)
  | offsetBy text =>
    obtain ⟨shift, -, hshifted⟩ := Option.bind_eq_some_iff.mp h
    exact .inl (DataType.isZoned_of_shifted hshifted hzoned)
  | field f =>
    cases dtype with
    | date =>
      rw [outputType?, Option.ite_none_left_eq_some] at h
      exact absurd hzoned (Option.some.inj h.2 ▸ id)
    | datetime unit zone => exact absurd hzoned (Option.some.inj h ▸ id)
    | _ => cases h
  | _ =>
    cases dtype with
    | date | datetime unit zone | duration unit => cases h <;> exact absurd hzoned id
    | _ => cases h

lemma Reducer.isZoned_of_outputType (h : (func.outputType dtype).IsZoned) : dtype.IsZoned := by
  cases func with
  | count | len | nUnique | list => exact absurd h id
  | sum | mean => cases dtype <;> first | exact h | exact absurd h id
  | _ => exact h

lemma Column.not_isZoned_of_compareType? {left right : DataType}
    (h : compareType? left right = some target) : ¬target.IsZoned := by
  rw [compareType?, Option.ite_none_right_eq_some] at h
  exact Option.some.inj h.2 ▸ id

lemma Column.not_isZoned_of_arithmeticType? {arith : Arithmetic} {left right : DataType}
    (h : arithmeticType? arith left right = some target) : ¬target.IsZoned := by
  rw [arithmeticType?, Option.ite_none_right_eq_some] at h
  obtain ⟨-, h⟩ := h
  split at h
  · exact Option.some.inj h ▸ id
  · exact Option.some.inj h ▸ id

/-- The type of an expression is one in a zone only if one of the columns has such a type, or the expression
names a zone. -/
lemma Expr.namesZone_or_of_type? (h : e.type? schema = some dtype) (hzoned : dtype.IsZoned) :
    e.NamesZone ∨ ∃ name column, schema name = some column ∧ column.IsZoned := by
  induction e generalizing dtype with
  | col name => exact .inr ⟨name, dtype, h, hzoned⟩
  | lit value =>
    obtain rfl := Option.some.inj h
    exact .inl hzoned
  | named input name ih => exact ih h hzoned
  | temporal input op ih =>
    obtain ⟨given, hgiven, htarget⟩ := Option.bind_eq_some_iff.mp h
    rcases TemporalOp.isZoned_or_namesZone htarget hzoned with hgiven' | hop
    · exact (ih hgiven hgiven').imp_left .inl
    · exact .inl (.inr hop)
  | compare left op right =>
    obtain ⟨ltype, -, h⟩ := Option.bind_eq_some_iff.mp h
    obtain ⟨rtype, -, htarget⟩ := Option.bind_eq_some_iff.mp h
    exact absurd hzoned (Column.not_isZoned_of_compareType? htarget)
  | arithmetic left op right =>
    obtain ⟨ltype, -, h⟩ := Option.bind_eq_some_iff.mp h
    obtain ⟨rtype, -, htarget⟩ := Option.bind_eq_some_iff.mp h
    exact absurd hzoned (Column.not_isZoned_of_arithmeticType? htarget)
  | reduce input func ih =>
    obtain ⟨given, hgiven, htarget⟩ := Option.bind_eq_some_iff.mp h
    exact ih hgiven (Reducer.isZoned_of_outputType (Option.some.inj htarget ▸ hzoned))

/-- The column of an expression has a zone only if the expression names one, or the table has one. -/
lemma Expr.namesZone_or_hasZone (h : e.type? t.schema = some c.dtype) (hzoned : c.dtype.IsZoned) :
    e.NamesZone ∨ t.HasZone := by
  refine (namesZone_or_of_type? h hzoned).imp_right ?_
  rintro ⟨name, dtype, hname, hdtype⟩
  obtain ⟨column, hcolumn, rfl⟩ := Option.map_eq_some_iff.mp hname
  exact ⟨column, (Table.column?_eq_some hcolumn).1, hdtype⟩

end TimeTable
