import TimeTable.Fault

/-!
# Columns

A column is a name, a type and cells of that type, each of which may be missing. The type of the cells
depends on the type of the column, so a column cannot hold a value of another type.
-/

namespace TimeTable

/-- The values that a column of a type holds. -/
@[reducible] def DataType.Cell : DataType → Type
  | null => Empty
  | boolean => Bool
  | int64 => Int64
  | float64 => Binary64
  | utf8 => String
  | date => Int32
  | datetime _ _ => Int64
  | duration _ => Int64
  | list _ => List Scalar

namespace DataType

/-- The cell of a type as a value of its own. -/
def toScalar : (dtype : DataType) → dtype.Cell → Scalar
  | null, v => nomatch v
  | boolean, v => .boolean v
  | int64, v => .int64 v
  | float64, v => .float64 v
  | utf8, v => .utf8 v
  | date, v => .date v
  | datetime unit zone, v => .datetime v unit zone
  | duration unit, v => .duration v unit
  | list _, v => .list v

def toScalarOrNull (dtype : DataType) : Option dtype.Cell → Scalar
  | some v => dtype.toScalar v
  | none => .null

/-- A value as a cell of a type: a missing one if there is no value, and nothing if the value is of
another type. Integers go into a column of floating-point numbers as the nearest number. -/
def ofScalar? : (dtype : DataType) → Scalar → Option (Option dtype.Cell)
  | _, .null => some none
  | boolean, .boolean v => some (some v)
  | int64, .int64 v => some (some v)
  | float64, .float64 v => some (some v)
  | float64, .int64 v => some (some (.ofInt v.toInt))
  | utf8, .utf8 v => some (some v)
  | date, .date v => some (some v)
  | datetime unit zone, .datetime v unit' zone' =>
    if unit' = unit ∧ zone' = zone then some (some v) else none
  | duration unit, .duration v unit' => if unit' = unit then some (some v) else none
  | list _, .list vs => some (some vs)
  | _, _ => none

@[simp] theorem ofScalar?_null (dtype : DataType) : dtype.ofScalar? .null = some none := by
  cases dtype <;> rfl

@[simp] theorem ofScalar?_toScalarOrNull (dtype : DataType) (cell : Option dtype.Cell) :
    dtype.ofScalar? (dtype.toScalarOrNull cell) = some cell := by
  cases cell with
  | none => simp [toScalarOrNull]
  | some v =>
    cases dtype with
    | null => exact v.elim
    | _ => simp [toScalarOrNull, toScalar, ofScalar?]

end DataType

/-- A named column: a type and cells of that type. -/
structure Column where
  name : String
  dtype : DataType
  cells : List (Option dtype.Cell)

namespace Column

def length (c : Column) : Nat := c.cells.length

def rename (c : Column) (name : String) : Column := ⟨name, c.dtype, c.cells⟩

def nulls (name : String) (n : Nat) : Column := ⟨name, .null, List.replicate n none⟩

def nullCount (c : Column) : Nat := c.cells.countP Option.isNone

/-- The cell of a row; there is none behind the last row. -/
def cell (c : Column) (row : Nat) : Option c.dtype.Cell := (c.cells[row]?).join

def isNull (c : Column) (row : Nat) : Bool := (c.cell row).isNone

def get (c : Column) (row : Nat) : Scalar := c.dtype.toScalarOrNull (c.cell row)

def toScalars (c : Column) : List Scalar := c.cells.map c.dtype.toScalarOrNull

/-- The column made of the given rows in the given order. -/
def take (c : Column) (rows : List Nat) : Column :=
  let cells := c.cells.toArray
  ⟨c.name, c.dtype, rows.map fun row => (cells[row]?).join⟩

/-- A column of a single row repeated to a height; any other column as it is. -/
def broadcast (c : Column) (height : Nat) : Column :=
  if c.length = 1 ∧ height ≠ 1 then c.take (List.replicate height 0) else c

/-- Equality of columns: name, type and values, floating-point numbers as numbers. -/
def same (c d : Column) : Bool :=
  c.name == d.name && c.dtype == d.dtype && Scalar.sameList c.toScalars d.toScalars

@[simp] theorem length_take (c : Column) (rows : List Nat) : (c.take rows).length = rows.length := by
  simp [take, length]

@[simp] theorem name_take (c : Column) (rows : List Nat) : (c.take rows).name = c.name := rfl

theorem cells_take (c : Column) (rows : List Nat) : (c.take rows).cells = rows.map c.cell := by
  simp [take, Column.cell]

/-- A value as a cell of a column of a type. -/
def cellOf (name : String) (dtype : DataType) (v : Scalar) : Except Fault (Option dtype.Cell) :=
  match dtype.ofScalar? v with
  | some cell => .ok cell
  | none => .error (.strayValue v name dtype)

/-- A column of exactly the given type, all of whose values have to be of that type. -/
def ofTyped (name : String) (dtype : DataType) (values : List Scalar) : Except Fault Column := do
  .ok ⟨name, dtype, ← values.mapM (cellOf name dtype)⟩

/-- A column of a type, all of whose values have to be of that type. Instead of the null type the type
of the first value that has one is taken. -/
def ofScalars (name : String) (dtype : DataType) (values : List Scalar) : Except Fault Column :=
  ofTyped name (if dtype = .null then Scalar.firstType values else dtype) values

def literal (name : String) (value : Scalar) : Except Fault Column := ofScalars name .null [value]

end Column
end TimeTable
