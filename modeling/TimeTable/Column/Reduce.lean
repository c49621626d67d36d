import TimeTable.Column.Order
import TimeTable.Group.Index

/-!
# Reductions

The reduction of a column to one value. Missing cells are passed over, except that `len` counts them,
`first`, `last` and `list` keep them, and `nUnique` takes them for a value of its own.
-/

namespace TimeTable

/-- The type of the value that a reduction gives. -/
def Reducer.outputType : Reducer → DataType → DataType
  | count, _ => .int64
  | len, _ => .int64
  | nUnique, _ => .int64
  | list, dtype => .list dtype
  | sum, .boolean => .int64
  | mean, .null => .null
  | mean, .duration unit => .duration unit
  | mean, _ => .float64
  | _, dtype => dtype

namespace Column

/-- The value that comes first in an order, the earliest of equal ones. -/
def firstBy {α : Type} (before : α → α → Bool) : List α → Option α
  | [] => none
  | v :: vs => some (vs.foldl (fun best w => if before w best then w else best) v)

/-- The least or greatest value of a column. -/
def extreme (wanted : Ordering) (func : Reducer) : Column → Except Fault Scalar
  | ⟨name, .list inner, _⟩ => .error (.unsupported func.name name (.list inner))
  | ⟨_, dtype, cells⟩ =>
    .ok (dtype.toScalarOrNull
      (firstBy (fun v w => dtype.compareCells v w == wanted) (cells.filterMap id)))

/-- The sum of integers, added from the left; every sum on the way has to fit a word. -/
def addWords? (vs : List Int64) : Option Int64 :=
  vs.foldlM (fun total v => Word.int64? (total.toInt + v.toInt)) 0

/-- The sum of the values of a column; of truth values, the number of those that hold. -/
def sum : Column → Except Fault Scalar
  | ⟨_, .null, _⟩ => .ok .null
  | ⟨_, .boolean, cells⟩ =>
    .ok (.int64 (Int64.ofNat ((cells.filterMap id).countP id)))
  | ⟨name, .int64, cells⟩ => match addWords? (cells.filterMap id) with
    | some total => .ok (.int64 total)
    | none => .error (.sumOverflow name)
  | ⟨_, .float64, cells⟩ => .ok (.float64 (Binary64.sum (cells.filterMap id)))
  | ⟨name, .duration unit, cells⟩ => match addWords? (cells.filterMap id) with
    | some total => .ok (.duration total unit)
    | none => .error (.sumOverflow name)
  | c => .error (.unsupported Reducer.sum.name c.name c.dtype)

def average (vs : List Binary64) : Scalar :=
  if vs.isEmpty then .null else .float64 (Binary64.sum vs / .ofInt vs.length)

/-- The sum of words, added from the left in words of 128 bits. -/
def addWide (vs : List Int64) : BitVec 128 :=
  vs.foldl (fun total v => total + v.toBitVec.signExtend 128) 0#128

/-- The mean of durations, if there are any. The quotient of the wide sum and the number of durations is
cut toward zero, and its low word is kept. -/
def averageTicks (unit : TimeUnit) (vs : List Int64) : Scalar :=
  if vs.isEmpty then .null
  else .duration (.ofBitVec (((addWide vs).sdiv (.ofNat 128 vs.length)).setWidth 64)) unit

/-- The mean of the values of a column; of truth values, the share of those that hold. -/
def mean : Column → Except Fault Scalar
  | ⟨_, .null, _⟩ => .ok .null
  | ⟨_, .boolean, cells⟩ =>
    .ok (average ((cells.filterMap id).map fun v => .ofInt (if v then 1 else 0)))
  | ⟨_, .int64, cells⟩ => .ok (average ((cells.filterMap id).map fun v => .ofInt v.toInt))
  | ⟨_, .float64, cells⟩ => .ok (average (cells.filterMap id))
  | ⟨_, .duration unit, cells⟩ => .ok (averageTicks unit (cells.filterMap id))
  | c => .error (.unsupported Reducer.mean.name c.name c.dtype)

/-- The number of different values, a missing one among them. -/
def countUnique (c : Column) : Except Fault Scalar := do
  .ok (.int64 (Int64.ofNat (← GroupIndex.build [c] c.length).length))

/-- The value that a reduction makes of a column. -/
def reduce (func : Reducer) (c : Column) : Except Fault Scalar :=
  match func with
  | .len => .ok (.int64 (Int64.ofNat c.length))
  | .count => .ok (.int64 (Int64.ofNat (c.length - c.nullCount)))
  | .first => .ok (c.get 0)
  | .last => .ok (c.get (c.length - 1))
  | .list => .ok (.list c.toScalars)
  | .nUnique => c.countUnique
  | .min => c.extreme .lt func
  | .max => c.extreme .gt func
  | .sum => c.sum
  | .mean => c.mean

end Column
end TimeTable
