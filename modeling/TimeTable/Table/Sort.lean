import TimeTable.Column.Order
import TimeTable.Table.Basic

namespace TimeTable.Table

/-- The order of two rows by several columns: that of the first column that tells them apart. -/
def compareByKeys (keys : List Column) (descending : Bool) (a b : Nat) : Ordering :=
  match keys with
  | [] => .eq
  | key :: keys => (key.sortOrder descending a b).then (compareByKeys keys descending a b)

/-- The numbers of the rows in sorted order. -/
def sortedRows (keys : List Column) (descending : Bool) (height : Nat) : List Nat :=
  (List.range height).mergeSort fun a b => (compareByKeys keys descending a b).isLE

/-- The table sorted by the columns with the given names. -/
def sort (t : Table) (names : List String) (descending : Bool) : Except Fault Table := do
  let keys ← names.mapM t.column
  .ok (t.take (sortedRows keys descending t.height))

end TimeTable.Table
