import TimeTable.Expr.Eval
import TimeTable.Plan.Basic
import TimeTable.Table.Sort

namespace TimeTable

/-- The columns of expressions on a table, brought to the greatest of their heights. -/
def Table.evaluateAll (t : Table) (exprs : List Expr) : Except Fault (List Column) := do
  let columns ← exprs.mapM fun e => e.evaluate t
  let height := columns.foldl (fun h c => max h c.length) 0
  .ok (columns.map (·.broadcast height))

/-- The table of the columns of expressions. -/
def Table.selectExprs (t : Table) (exprs : List Expr) : Except Fault Table := do
  Table.ofColumns (← t.evaluateAll exprs)

/-- The table with the columns of expressions put into it one after the other. -/
def Table.withExprs (t : Table) (exprs : List Expr) : Except Fault Table := do
  let columns ← t.evaluateAll exprs
  columns.foldlM (fun u c => u.withColumn (c.broadcast t.height)) t

def trueRows (cells : List (Option Bool)) : List Nat :=
  (List.range cells.length).filter fun row => cells[row]? == some (some true)

/-- The rows of a table for which a predicate holds. -/
def Table.filter (t : Table) (predicate : Expr) : Except Fault Table := do
  match (← predicate.evaluate t).broadcast t.height with
  | ⟨_, .boolean, cells⟩ => .ok (t.take (trueRows cells))
  | ⟨_, .null, _⟩ => .ok (t.take [])
  | mask => .error (.notBoolean predicate mask.dtype)

/-- The columns that aggregations refer to: those of the table, or else the keys of that name. -/
def Table.project (t : Table) (keys : List Column) (aggregations : List Expr) :
    Except Fault Table := do
  let names := (aggregations.flatMap Expr.referencedColumns).eraseDups
  let columns ← names.mapM fun name => match t.column? name, keys.find? (·.name == name) with
    | some c, _ => .ok c
    | none, some key => .ok key
    | none, none => .error (.columnNotFound name)
  Table.ofColumns columns

/-- The cell of a group for a column that an aggregation gave on its rows. -/
def Expr.groupValue (e : Expr) (c : Column) : Except Fault Scalar :=
  if e.isScalar then
    if c.length = 1 then .ok (c.get 0) else .error (.manyValues e c.length)
  else .ok (.list c.toScalars)

/-- The type of the values of an aggregation: the first among the groups that is not null. Without
groups the aggregation is evaluated on no rows. -/
def Expr.groupType (e : Expr) (results : List Column) (source : Table) : Except Fault DataType :=
  match results.find? fun c => c.dtype ≠ .null with
  | some c => .ok c.dtype
  | none => if results.isEmpty then (e.evaluate (source.take [])).map Column.dtype else .ok .null

/-- The column of an aggregation from its columns on the rows of each group. -/
def Expr.assemble (e : Expr) (results : List Column) (source : Table) : Except Fault Column := do
  let values ← results.mapM e.groupValue
  let inner ← e.groupType results source
  Column.ofScalars e.outputName (if e.isScalar then inner else .list inner) values

/-- The table of the keys of each group and its aggregations. -/
def Table.aggregate (t : Table) (index : GroupIndex) (keys : List Column)
    (aggregations : List Expr) : Except Fault Table := do
  let heads := keys.map (·.take index.firstRows)
  let source ← t.project keys aggregations
  let perGroup ← index.groups.mapM fun rows =>
    let group := source.take rows
    aggregations.mapM fun e => e.evaluate group
  let columns ← aggregations.zipIdx.mapM fun p =>
    p.1.assemble (perGroup.filterMap (·[p.2]?)) source
  Table.ofColumns (heads ++ columns)

/-- The table of the keys and the other columns on the first or last rows of each group. -/
def Table.sliceGroups (t : Table) (index : GroupIndex) (keys : List Column) (slice : GroupSlice)
    (n : Nat) : Except Fault Table :=
  let rows := slice.selectRows index n
  let others := t.columns.filter fun c => keys.all fun key => key.name != c.name
  Table.ofColumns ((keys ++ others).map (·.take rows))

/-- What is to be done with groups, the number of rows to keep having been checked. -/
inductive GroupStep where
  | agg (aggregations : List Expr)
  | slice (slice : GroupSlice) (n : Nat)

def GroupAction.step : GroupAction → Except Fault GroupStep
  | agg aggregations => .ok (.agg aggregations)
  | slice s n => (GroupSlice.checkLength n).map (.slice s)

/-- The groups of a table by the columns of the keys, and what is done with them. -/
def Table.groupBy (t : Table) (keys : List Expr) (step : GroupStep) : Except Fault Table := do
  let keys ← keys.mapM fun key => (key.evaluate t).map (·.broadcast t.height)
  let index ← GroupIndex.build keys t.height
  index.verifyPartition t.height
  match step with
  | .agg aggregations => t.aggregate index keys aggregations
  | .slice slice n => t.sliceGroups index keys slice n

/-- The table that a plan gives. The arguments of a grouping are checked before its input is run. -/
def Plan.run : Plan → Except Fault Table
  | scan table => .ok table
  | select input exprs => do (← input.run).selectExprs exprs
  | withColumns input exprs => do (← input.run).withExprs exprs
  | filter input predicate => do (← input.run).filter predicate
  | sort input names descending => do (← input.run).sort names descending
  | groupBy input keys action => do
    let step ← action.step
    if keys.isEmpty then .error .noKeys else (← input.run).groupBy keys step

end TimeTable
