import TimeTable.Binary64.Text
import TimeTable.Expr.Basic
import TimeTable.Text.Blank
import TimeTable.Text.Numeral
import TimeTable.Text.Split

/-!
# Specifications

The short forms in which a command line gives filters, aggregations, keys and fields. A filter is a
column, the symbol of a comparison and a value; an aggregation is a function, a column and perhaps a
name, with colons between them; keys are columns with commas between them.
-/

namespace TimeTable

/-- Why a specification makes no sense. -/
inductive SpecError where
  | filterForm (spec : String)
  | unknownOperator (spec : String)
  | filterWithoutColumn (spec : String)
  | aggregationForm (spec : String)
  | unknownAggregation (name : String)
  | noAggregation
  | unknownField (name : String)
deriving DecidableEq

def SpecError.message : SpecError → String
  | filterForm spec => s!"filter '{spec}' must look like column<op>value"
  | unknownOperator spec => s!"unknown operator in filter '{spec}'"
  | filterWithoutColumn spec => s!"filter '{spec}' has no column"
  | aggregationForm spec => s!"aggregation '{spec}' must look like fn:column[:alias]"
  | unknownAggregation name => s!"unknown aggregation '{name}'"
  | noAggregation => "group-by needs --agg, --head or --tail"
  | unknownField name => s!"unknown field '{name}'"

namespace Spec

def isQuote (c : Char) : Bool := c == '\'' || c == '"'

def unquote (s : List Char) : List Char :=
  ((s.dropWhile isQuote).reverse.dropWhile isQuote).reverse

/-- The value that a text without blank ends stands for: an integer, a floating-point number, a truth
value, or else a text, which may be quoted. -/
def literal (s : List Char) : Scalar :=
  match (Numeral.readInt? s).bind Word.int64?, Binary64.read? s with
  | some n, _ => .int64 n
  | none, some x => .float64 x
  | none, none =>
    if s = "true".toList then .boolean true
    else if s = "false".toList then .boolean false
    else .utf8 (.ofList (unquote s))

/-- Whether a character may stand in the symbol of a comparison. -/
def isOperatorChar (c : Char) : Bool := c == '=' || c == '!' || c == '<' || c == '>'

/-- The comparison whose symbol is the first `width` characters of a text, and the rest. -/
def comparisonOf? (width : Nat) (s : List Char) : Option (Comparison × List Char) :=
  (Comparison.ofSymbol? (.ofList (s.take width))).map fun op => (op, s.drop width)

/-- The comparison whose symbol a text begins with, the longer of two, and the rest. -/
def comparison? (s : List Char) : Option (Comparison × List Char) :=
  (comparisonOf? 2 s).or (comparisonOf? 1 s)

/-- The predicate that a filter stands for. -/
def filter (spec : List Char) : Except SpecError Expr :=
  match spec.dropWhile fun c => !isOperatorChar c with
  | [] => .error (.filterForm (.ofList spec))
  | rest => match comparison? rest with
    | none => .error (.unknownOperator (.ofList spec))
    | some (op, value) =>
      let column := Text.trim (spec.takeWhile fun c => !isOperatorChar c)
      if column.isEmpty then .error (.filterWithoutColumn (.ofList spec))
      else if value.head?.any isOperatorChar then .error (.unknownOperator (.ofList spec))
      else .ok (.compare (.col (.ofList column)) op (.lit (literal (Text.trim value))))

/-- A reduction of a column by the function with a name. -/
def reduction (func column : List Char) : Except SpecError Expr :=
  match Reducer.ofName? (.ofList func) with
  | some f => .ok (.reduce (.col (.ofList column)) f)
  | none => .error (.unknownAggregation (.ofList func))

/-- The expression that an aggregation stands for. -/
def aggregation (spec : List Char) : Except SpecError Expr :=
  match Text.split ':' spec with
  | [func, column] => reduction func column
  | [func, column, name] => (reduction func column).map (.named · (.ofList name))
  | _ => .error (.aggregationForm (.ofList spec))

/-- The columns of keys: the parts between commas that are not blank. -/
def keys (spec : List Char) : List String :=
  (((Text.split ',' spec).map Text.trim).filter fun key => !key.isEmpty).map String.ofList

def field (name : String) : Except SpecError TemporalField :=
  match TemporalField.ofName? name with
  | some f => .ok f
  | none => .error (.unknownField name)

end Spec
end TimeTable
