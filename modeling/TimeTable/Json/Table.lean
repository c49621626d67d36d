import TimeTable.Json.Basic
import TimeTable.Table.Basic

namespace TimeTable

mutual

def Scalar.toJson : Scalar → Json
  | .null => .null
  | .boolean v => .boolean v
  | .int64 v => .number (Numeral.ofInt v.toInt)
  | .float64 v => if v.isFinite then .number (v.finiteText .data) else .null
  | .utf8 v => .string v
  | .list vs => .array (itemsToJson vs)
  | .date days => .string (.ofList (Scalar.dateText days))
  | .datetime ticks unit zone => .string (.ofList (Scalar.datetimeText ticks unit zone))
  | .duration ticks unit => .string (.ofList (Scalar.ticksText ticks unit))

def Scalar.itemsToJson : List Scalar → List Json
  | [] => []
  | v :: vs => v.toJson :: itemsToJson vs

end

def DataType.toJson (dtype : DataType) : Json := .string dtype.display

def Table.toJson (t : Table) : Json :=
  .array (t.rows.map fun row => .object (t.names.zip (row.map Scalar.toJson)))

end TimeTable
