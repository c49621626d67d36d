import TimeTable.Expr.Basic
import TimeTable.Group.Slice
import TimeTable.Table.Basic

/-!
# Plans

What is to be done with a table, without doing it: a table to start from, and steps each of which takes
the table that the plan below it gives.
-/

namespace TimeTable

/-- What is done with the groups of a table. -/
inductive GroupAction where
  | agg (aggregations : List Expr)
  | slice (slice : GroupSlice) (n : Int64)

/-- A table and what is done with it. -/
inductive Plan where
  | scan (table : Table)
  | select (input : Plan) (exprs : List Expr)
  | withColumns (input : Plan) (exprs : List Expr)
  | filter (input : Plan) (predicate : Expr)
  | sort (input : Plan) (names : List String) (descending : Bool)
  | groupBy (input : Plan) (keys : List Expr) (action : GroupAction)

/-- Texts with commas between them, in brackets. -/
def bracketed (parts : List String) : String := "[" ++ ", ".intercalate parts ++ "]"

/-- Expressions with commas between them, in brackets. -/
def Expr.displayList (exprs : List Expr) : String := bracketed (exprs.map Expr.display)

def GroupAction.label : GroupAction → String
  | agg aggregations => "AGG " ++ Expr.displayList aggregations
  | slice .head n => s!"HEAD {n.toInt}"
  | slice .tail n => s!"TAIL {n.toInt}"

namespace Plan

def label : Plan → String
  | scan table => "SCAN " ++ bracketed table.names ++ s!" ({table.height} rows)"
  | select _ exprs => "SELECT " ++ Expr.displayList exprs
  | withColumns _ exprs => "WITH_COLUMNS " ++ Expr.displayList exprs
  | filter _ predicate => "FILTER " ++ predicate.display
  | sort _ names descending =>
    "SORT BY " ++ bracketed names ++ if descending then " DESC" else ""
  | groupBy _ keys action => "GROUP_BY " ++ Expr.displayList keys ++ " " ++ action.label

/-- The steps of a plan from the last one down to its table. -/
def labels : Plan → List String
  | p@(scan _) => [p.label]
  | p@(select input _) => p.label :: input.labels
  | p@(withColumns input _) => p.label :: input.labels
  | p@(filter input _) => p.label :: input.labels
  | p@(sort input _ _) => p.label :: input.labels
  | p@(groupBy input _ _) => p.label :: input.labels

def depth : Plan → Nat
  | scan _ => 0
  | select input _ => input.depth + 1
  | withColumns input _ => input.depth + 1
  | filter input _ => input.depth + 1
  | sort input _ _ => input.depth + 1
  | groupBy input _ _ => input.depth + 1

/-- Lines, each two blanks further in than the one before. -/
def indented (depth : Nat) : List String → String
  | [] => ""
  | l :: ls => String.ofList (List.replicate (2 * depth) ' ') ++ l ++ "\n" ++ indented (depth + 1) ls

def describe (plan : Plan) : String := indented 0 plan.labels

end Plan

def Expr.sameList : List Expr → List Expr → Bool
  | [], [] => true
  | e :: es, e' :: es' => e.same e' && sameList es es'
  | _, _ => false

def GroupAction.same : GroupAction → GroupAction → Bool
  | agg es, agg es' => Expr.sameList es es'
  | slice s n, slice s' n' => s == s' && n == n'
  | _, _ => false

/-- Equality of plans: the same steps on equal tables. -/
def Plan.same : Plan → Plan → Bool
  | scan t, scan t' => t.same t'
  | select p es, select p' es' => p.same p' && Expr.sameList es es'
  | withColumns p es, withColumns p' es' => p.same p' && Expr.sameList es es'
  | filter p e, filter p' e' => p.same p' && e.same e'
  | sort p names desc, sort p' names' desc' => p.same p' && names == names' && desc == desc'
  | groupBy p keys a, groupBy p' keys' a' => p.same p' && Expr.sameList keys keys' && a.same a'
  | _, _ => false

end TimeTable
