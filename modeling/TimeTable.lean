import TimeTable.Plan.Run
import TimeTable.Table.Display
import TimeTable.Json.Table
import TimeTable.Csv.Reader
import TimeTable.Csv.Writer
import TimeTable.Config.Read
import TimeTable.CommandLine.Spec
import TimeTable.CommandLine.Arguments
import TimeTable.Text.Quoted
import TimeTable.CommandLine.Run
import TimeTable.Main
import TimeTable.Proofs.Outcome
import TimeTable.Proofs.Key
import TimeTable.Proofs.Calendar.Ticks
import TimeTable.Proofs.Column.Rows
import TimeTable.Proofs.Column.Cellwise
import TimeTable.Proofs.Column.Pairwise
import TimeTable.Proofs.Column.Comparisons
import TimeTable.Proofs.Column.Scalars
import TimeTable.Proofs.Table.Columns
import TimeTable.Proofs.Expr.Shape
import TimeTable.Proofs.Expr.Scope
import TimeTable.Proofs.Expr.Rows
import TimeTable.Proofs.Expr.Layout
import TimeTable.Proofs.Group.Classes
import TimeTable.Proofs.Group.Among
import TimeTable.Proofs.Group.Building
import TimeTable.Proofs.Group.Check
import TimeTable.Proofs.Group.Partition
import TimeTable.Proofs.Plan.Grouping
import TimeTable.Proofs.Plan.Project
import TimeTable.Proofs.Plan.Aggregate
import TimeTable.Proofs.Plan.Fields
import TimeTable.Proofs.Plan.Select
import TimeTable.Proofs.Expr.Keys
import TimeTable.Proofs.Group.Kept
import TimeTable.Proofs.Plan.Filter
import TimeTable.Proofs.Plan.FilteredGroups
import TimeTable.Proofs.Places
import TimeTable.Proofs.Column.Order
import TimeTable.Proofs.Table.Sorting
import TimeTable.Proofs.Plan.FilteredRows
import TimeTable.Proofs.Group.Reordered
import TimeTable.Proofs.Column.Unordered
import TimeTable.Proofs.Expr.Unordered
import TimeTable.Proofs.Plan.SortedGroups
import TimeTable.Proofs.Group.Resliced
import TimeTable.Proofs.Plan.Slices
import TimeTable.Proofs.Plan.RowAggregations
import TimeTable.Proofs.Column.Faults
import TimeTable.Proofs.Expr.Faults
import TimeTable.Proofs.Plan.Faults
import TimeTable.Proofs.Plan.PutColumns
import TimeTable.Proofs.Plan.Heights
import TimeTable.Proofs.Zone.Readings
import TimeTable.Proofs.Column.WallClock
import TimeTable.Proofs.Csv.Records
import TimeTable.Proofs.Calendar.Dates
import TimeTable.Proofs.Text.Numeral
import TimeTable.Proofs.Pattern.Written
import TimeTable.Proofs.Csv.Cells
import TimeTable.Proofs.Csv.ReadBack
import TimeTable.Proofs.Csv.Forms
import TimeTable.Proofs.Csv.Inference
import TimeTable.Proofs.Table.StableSort
import TimeTable.Proofs.Table.Extremes
import TimeTable.Proofs.Table.NaNOrder
import TimeTable.Proofs.Column.Homogeneous
import TimeTable.Proofs.Totals
import TimeTable.Proofs.Column.Means
import TimeTable.Proofs.Column.Sums
import TimeTable.Proofs.Column.Integers
import TimeTable.Proofs.Shift.Written
import TimeTable.Proofs.Calendar.Months
import TimeTable.Proofs.Shift.Days
import TimeTable.Proofs.Shift.Instants
import TimeTable.Proofs.Shift.Lengths
import TimeTable.Proofs.Calendar.Units
import TimeTable.Proofs.Column.Counts
import TimeTable.Proofs.Column.UnitCasts
import TimeTable.Proofs.Calendar.Counting
import TimeTable.Proofs.Column.Parts
import TimeTable.Proofs.Column.Fields
import TimeTable.Proofs.Column.Midnight
import TimeTable.Proofs.CommandLine.Filters
import TimeTable.Proofs.Expr.Naming
import TimeTable.Proofs.Config.Precedence
import TimeTable.Proofs.Table.Lines
import TimeTable.Proofs.Group.Hashing
import TimeTable.Proofs.Column.Reductions
