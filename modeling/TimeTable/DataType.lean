import TimeTable.Binary64.Basic
import TimeTable.TimeUnit
import TimeTable.Zone.Basic

namespace TimeTable

/-- The type of a column. -/
inductive DataType where
  | null
  | boolean
  | int64
  | float64
  | utf8
  | date
  | datetime (unit : TimeUnit) (zone : Option Zone)
  | duration (unit : TimeUnit)
  | list (inner : DataType)
deriving DecidableEq, Inhabited

namespace DataType

/-- Whether a type is one of dates, instants or durations. -/
def isTemporal : DataType → Bool
  | date | datetime .. | duration _ => true
  | _ => false

def isNumeric : DataType → Bool
  | int64 | float64 => true
  | _ => false

def display : DataType → String
  | null => "null"
  | boolean => "bool"
  | int64 => "i64"
  | float64 => "f64"
  | utf8 => "str"
  | date => "date"
  | datetime unit none => "datetime[" ++ unit.name ++ "]"
  | datetime unit (some zone) => "datetime[" ++ unit.name ++ ", " ++ zone.name ++ "]"
  | duration unit => "duration[" ++ unit.name ++ "]"
  | list inner => "list[" ++ inner.display ++ "]"

end DataType
end TimeTable
