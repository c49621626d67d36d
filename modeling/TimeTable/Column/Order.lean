import TimeTable.Column.Basic

/-!
# The order of cells

How the rows of a column are ordered: missing cells after all values, floating-point numbers by the
total order of their patterns, texts by their characters and lists by their lengths.
-/

namespace TimeTable

def DataType.compareCells : (dtype : DataType) → dtype.Cell → dtype.Cell → Ordering
  | null, v, _ => nomatch v
  | boolean, v, w => compare v.toNat w.toNat
  | int64, v, w => compare v.toInt w.toInt
  | float64, v, w => v.totalCompare w
  | utf8, v, w => compare v w
  | date, v, w => compare v.toInt w.toInt
  | datetime _ _, v, w => compare v.toInt w.toInt
  | duration _, v, w => compare v.toInt w.toInt
  | list _, v, w => compare v.length w.length

/-- The order of two cells by an order of values, in either direction; missing cells come last in
both. -/
def compareNullsLast {α : Type} (order : α → α → Ordering) : Option α → Option α → Ordering
  | some v, some w => order v w
  | some _, none => .lt
  | none, some _ => .gt
  | none, none => .eq

namespace Column

def compareRows (c : Column) (a b : Nat) : Ordering :=
  compareNullsLast c.dtype.compareCells (c.cell a) (c.cell b)

/-- The order of two rows when sorting in a direction. -/
def sortOrder (c : Column) (descending : Bool) (a b : Nat) : Ordering :=
  compareNullsLast
    (fun v w =>
      if descending then (c.dtype.compareCells v w).swap else c.dtype.compareCells v w)
    (c.cell a) (c.cell b)

end Column
end TimeTable
