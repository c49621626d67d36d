import TimeTable.Operator
import TimeTable.Scalar
import TimeTable.Temporal

/-!
# Expressions

What is computed from the columns of a table: column references and literals, combined by renaming,
temporal operations, comparisons, arithmetic and reductions. An expression knows the name of the
column it gives and whether it gives a single value, without being evaluated.
-/

namespace TimeTable

/-- An expression over the columns of a table. -/
inductive Expr where
  | col (name : String)
  | lit (value : Scalar)
  | named (input : Expr) (name : String)
  | temporal (input : Expr) (op : TemporalOp)
  | compare (left : Expr) (op : Comparison) (right : Expr)
  | arithmetic (left : Expr) (op : Arithmetic) (right : Expr)
  | reduce (input : Expr) (func : Reducer)
deriving Inhabited

namespace Expr

/-- The name that the column of a literal has. -/
def literalName : String := "literal"

/-- The name of the column that an expression gives: the outermost name given to it, or else that of
the reference, on the way to the leftmost leaf. -/
def outputName : Expr → String
  | col name => name
  | lit _ => literalName
  | named _ name => name
  | temporal input _ => input.outputName
  | compare left _ _ => left.outputName
  | arithmetic left _ _ => left.outputName
  | reduce input _ => input.outputName

/-- Whether an expression gives a single value whatever the height of the table. -/
def isScalar : Expr → Bool
  | col _ => false
  | lit _ => true
  | named input _ => input.isScalar
  | temporal input _ => input.isScalar
  | compare left _ right => left.isScalar && right.isScalar
  | arithmetic left _ right => left.isScalar && right.isScalar
  | reduce _ _ => true

/-- The column references of an expression from left to right. -/
def references : Expr → List String
  | col name => [name]
  | lit _ => []
  | named input _ => input.references
  | temporal input _ => input.references
  | compare left _ right => left.references ++ right.references
  | arithmetic left _ right => left.references ++ right.references
  | reduce input _ => input.references

/-- The names of the columns that an expression refers to, each once, in order of appearance. -/
def referencedColumns (e : Expr) : List String := e.references.eraseDups

/-- Two operands with the symbol of the operation between them. -/
def binaryText (left symbol right : String) : String :=
  "[(" ++ left ++ ") " ++ symbol ++ " (" ++ right ++ ")]"

def display : Expr → String
  | col name => "col(\"" ++ name ++ "\")"
  | lit value => "lit(" ++ value.display ++ ")"
  | named input name => input.display ++ ".alias(\"" ++ name ++ "\")"
  | temporal input op => input.display ++ ".dt." ++ op.display
  | compare left op right => binaryText left.display op.symbol right.display
  | arithmetic left op right => binaryText left.display op.symbol right.display
  | reduce input func => input.display ++ "." ++ func.name ++ "()"

/-- Equality of expressions, literals being compared as values. -/
def same : Expr → Expr → Bool
  | col name, col name' => name == name'
  | lit value, lit value' => value.same value'
  | named input name, named input' name' => input.same input' && name == name'
  | temporal input op, temporal input' op' => input.same input' && op == op'
  | compare left op right, compare left' op' right' =>
    left.same left' && op == op' && right.same right'
  | arithmetic left op right, arithmetic left' op' right' =>
    left.same left' && op == op' && right.same right'
  | reduce input func, reduce input' func' => input.same input' && func == func'
  | _, _ => false

end Expr
end TimeTable
