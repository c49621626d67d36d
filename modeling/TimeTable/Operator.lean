import TimeTable.Text.Case

namespace TimeTable

/-- A comparison of two values. -/
inductive Comparison where
  | eq
  | neq
  | gt
  | gtEq
  | lt
  | ltEq
deriving DecidableEq, Inhabited

namespace Comparison

/-- The comparison that a symbol stands for. -/
def ofSymbol? : String → Option Comparison
  | "=" | "==" => some eq
  | "!=" | "<>" => some neq
  | ">" => some gt
  | ">=" => some gtEq
  | "<" => some lt
  | "<=" => some ltEq
  | _ => none

def symbol : Comparison → String
  | eq => "=="
  | neq => "!="
  | gt => ">"
  | gtEq => ">="
  | lt => "<"
  | ltEq => "<="

@[simp] theorem ofSymbol?_symbol (op : Comparison) : ofSymbol? op.symbol = some op := by
  cases op <;> rfl

/-- Whether a comparison holds of two values with a given order; values without an order are
unequal. -/
def holds : Comparison → Option Ordering → Bool
  | eq, o => o == some .eq
  | neq, o => o != some .eq
  | gt, o => o == some .gt
  | gtEq, o => o == some .gt || o == some .eq
  | lt, o => o == some .lt
  | ltEq, o => o == some .lt || o == some .eq

end Comparison

/-- An operation of arithmetic. -/
inductive Arithmetic where
  | add
  | sub
  | mul
  | div
deriving DecidableEq, Inhabited

def Arithmetic.symbol : Arithmetic → String
  | add => "+"
  | sub => "-"
  | mul => "*"
  | div => "/"

/-- A function that reduces a column to one value. -/
inductive Reducer where
  | sum
  | mean
  | min
  | max
  | count
  | len
  | first
  | last
  | nUnique
  | list
deriving DecidableEq, Inhabited

namespace Reducer

def name : Reducer → String
  | sum => "sum"
  | mean => "mean"
  | min => "min"
  | max => "max"
  | count => "count"
  | len => "len"
  | first => "first"
  | last => "last"
  | nUnique => "n_unique"
  | list => "list"

def ofName? (s : String) : Option Reducer :=
  match Text.lowered s with
  | "sum" => some sum
  | "mean" | "avg" => some mean
  | "min" => some min
  | "max" => some max
  | "count" => some count
  | "len" => some len
  | "first" => some first
  | "last" => some last
  | "n_unique" => some nUnique
  | "list" => some list
  | _ => none

end Reducer
end TimeTable
