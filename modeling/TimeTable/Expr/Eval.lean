import TimeTable.Column.Reduce
import TimeTable.Column.Temporal
import TimeTable.Expr.Listing
import TimeTable.Table.Basic

namespace TimeTable

namespace Column

def broadcastPair (left right : Column) : Except Fault (Column × Column) :=
  if left.length = right.length then .ok (left, right)
  else if left.length = 1 then .ok (left.broadcast right.length, right)
  else if right.length = 1 then .ok (left, right.broadcast left.length)
  else .error (.unevenPair left.name left.length right.name right.length)

/-- Whether the values of two types have a common order. -/
def comparable : DataType → DataType → Bool
  | .null, _ => true
  | _, .null => true
  | .boolean, .boolean => true
  | .utf8, .utf8 => true
  | .date, .date => true
  | .datetime unit _, .datetime unit' _ => unit == unit'
  | .duration unit, .duration unit' => unit == unit'
  | left, right => left.isNumeric && right.isNumeric

/-- The order of two values. Integers are compared as integers, and with floating-point numbers as
floating-point numbers. -/
def compareScalars? : Scalar → Scalar → Option Ordering
  | .int64 v, .int64 w => some (compare v.toInt w.toInt)
  | .boolean v, .boolean w => some (Ord.compare v.toNat w.toNat)
  | .utf8 v, .utf8 w => some (Ord.compare v w)
  | .date v, .date w => some (Ord.compare v.toInt w.toInt)
  | .datetime v _ _, .datetime w _ _ => some (Ord.compare v.toInt w.toInt)
  | .duration v _, .duration w _ => some (Ord.compare v.toInt w.toInt)
  | v, w => do (← v.number?).compare? (← w.number?)

/-- The comparison of two values, missing if either is. -/
def compareCell (op : Comparison) (v w : Scalar) : Option Bool :=
  if v.isNull || w.isNull then none else some (op.holds (compareScalars? v w))

/-- The comparison of two columns row by row. -/
def compare (left : Column) (op : Comparison) (right : Column) : Except Fault Column :=
  if comparable left.dtype right.dtype then do
    let (l, r) ← broadcastPair left right
    .ok ⟨left.name, .boolean, List.zipWith (compareCell op) l.toScalars r.toScalars⟩
  else .error (.incomparable left.name left.dtype op right.name right.dtype)

/-- Whether a type can take part in arithmetic. -/
def isOperand (dtype : DataType) : Bool := dtype.isNumeric || dtype == .null

/-- An operation on integers; division is none. -/
def intResult : Arithmetic → Int → Int → Int
  | .add, a, b => a + b
  | .sub, a, b => a - b
  | .mul, a, b => a * b
  | .div, a, _ => a

/-- An operation on floating-point numbers. -/
def floatResult : Arithmetic → Binary64 → Binary64 → Binary64
  | .add, a, b => a + b
  | .sub, a, b => a - b
  | .mul, a, b => a * b
  | .div, a, b => a / b

/-- An operation on two integer values, missing if either is. -/
def intCell (op : Arithmetic) : Scalar → Scalar → Except Fault (Option Int64)
  | .int64 a, .int64 b => match Word.int64? (intResult op a.toInt b.toInt) with
    | some n => .ok (some n)
    | none => .error (.arithmeticOverflow a op b)
  | _, _ => .ok none

/-- An operation on two values as floating-point numbers, missing if either is. -/
def floatCell (op : Arithmetic) (v w : Scalar) : Option Binary64 := do
  some (floatResult op (← v.number?) (← w.number?))

/-- An operation on two columns row by row. It is one on integers unless it divides or a column holds
floating-point numbers. -/
def arithmetic (left : Column) (op : Arithmetic) (right : Column) : Except Fault Column :=
  if isOperand left.dtype && isOperand right.dtype then do
    let (l, r) ← broadcastPair left right
    if op ≠ .div ∧ left.dtype ≠ .float64 ∧ right.dtype ≠ .float64 then
      let cells ← (l.toScalars.zip r.toScalars).mapM fun p => intCell op p.1 p.2
      .ok ⟨left.name, .int64, cells⟩
    else .ok ⟨left.name, .float64, List.zipWith (floatCell op) l.toScalars r.toScalars⟩
  else .error (.notNumeric op left.dtype right.dtype)

/-- The column of one row that a reduction of a column gives. -/
def reduced (func : Reducer) (c : Column) : Except Fault Column := do
  ofScalars c.name (func.outputType c.dtype) [← c.reduce func]

end Column

namespace Expr

/-- One step of evaluation: the column of a node from those of its operands. -/
def evalStep (t : Table) : Node (Except Fault Column) → Except Fault Column
  | .col name => t.column name
  | .lit value => Column.literal literalName value
  | .named input name => input.map (·.rename name)
  | .temporal input op => do op.apply (← input)
  | .compare left op right => do (← left).compare op (← right)
  | .arithmetic left op right => do (← left).arithmetic op (← right)
  | .reduce input func => do (← input).reduced func

/-- The column of an expression on a table, before it is named. -/
def eval (e : Expr) (t : Table) : Except Fault Column := e.fold (evalStep t)

/-- The column of an expression on a table. -/
def evaluate (e : Expr) (t : Table) : Except Fault Column :=
  (e.eval t).map (·.rename e.outputName)

namespace Listing

/-- The column of the node at a place of a listing on a table. -/
def evalAt? (listing : Listing) (t : Table) (place : Nat) : Option (Except Fault Column) :=
  listing.foldAt? (evalStep t) place

/-- The column of a listing on a table, before it is named. -/
def eval? (listing : Listing) (t : Table) : Option (Except Fault Column) :=
  listing.evalAt? t listing.root

def evaluate? (listing : Listing) (t : Table) : Option (Except Fault Column) := do
  let name ← listing.outputName?
  some ((← listing.eval? t).map (·.rename name))

end Listing

end Expr
end TimeTable
