import TimeTable.Binary64.Text
import TimeTable.DataType

/-!
# Values

A single value of any type. Three equalities are told apart: the equality of keys, which is equality
of values as they are stored; the equality of numbers in comparisons, where the zeros are equal and a
NaN equals nothing; and the order, which belongs to columns.
-/

namespace TimeTable

/-- A value: nothing, or a value of some type. Dates count days and the other temporal values ticks,
from 1970. -/
inductive Scalar where
  | null
  | boolean (v : Bool)
  | int64 (v : Int64)
  | float64 (v : Binary64)
  | utf8 (v : String)
  | date (days : Int32)
  | datetime (ticks : Int64) (unit : TimeUnit) (zone : Option Zone)
  | duration (ticks : Int64) (unit : TimeUnit)
  | list (items : List Scalar)
deriving Inhabited

namespace Scalar

def isNull : Scalar → Bool
  | null => true
  | _ => false

mutual

/-- The type of a value. A list has the type of its first item that has one. -/
def dtype : Scalar → DataType
  | null => .null
  | boolean _ => .boolean
  | int64 _ => .int64
  | float64 _ => .float64
  | utf8 _ => .utf8
  | date _ => .date
  | datetime _ unit zone => .datetime unit zone
  | duration _ unit => .duration unit
  | list items => .list (firstType items)

/-- The first type among the values that is not null. -/
def firstType : List Scalar → DataType
  | [] => .null
  | v :: vs => if v.dtype = .null then firstType vs else v.dtype

end

/-- The value as a floating-point number, if it is a number. -/
def number? : Scalar → Option Binary64
  | int64 v => some (.ofInt v.toInt)
  | float64 v => some v
  | _ => none

mutual

/-- Equality of keys: floating-point numbers by their bits, lists item by item. -/
def sameKey : Scalar → Scalar → Bool
  | null, null => true
  | boolean v, boolean w => v == w
  | int64 v, int64 w => v == w
  | float64 v, float64 w => v.bits == w.bits
  | utf8 v, utf8 w => v == w
  | date v, date w => v == w
  | datetime v unit zone, datetime w unit' zone' => v == w && unit == unit' && zone == zone'
  | duration v unit, duration w unit' => v == w && unit == unit'
  | list vs, list ws => sameKeys vs ws
  | _, _ => false

/-- Equality of lists of keys, item by item. -/
def sameKeys : List Scalar → List Scalar → Bool
  | [], [] => true
  | v :: vs, w :: ws => sameKey v w && sameKeys vs ws
  | _, _ => false

end

mutual

/-- Equality of values: floating-point numbers as numbers, lists item by item. -/
def same : Scalar → Scalar → Bool
  | float64 v, float64 w => v.same w
  | list vs, list ws => sameList vs ws
  | v, w => sameKey v w

/-- Equality of lists of values, item by item. -/
def sameList : List Scalar → List Scalar → Bool
  | [], [] => true
  | v :: vs, w :: ws => same v w && sameList vs ws
  | _, _ => false

end

/-- A day as a date, or as a bare number of days out of range. -/
def dateText (days : Int32) : List Char :=
  match Calendar.check days.toInt with
  | some day => DateTime.dateText day
  | none => Numeral.ofInt days.toInt ++ ['d']

def ticksText (ticks : Int64) (unit : TimeUnit) : List Char :=
  Numeral.ofInt ticks.toInt ++ unit.name.toList

/-- An instant as date and time in its zone with the zone's abbreviation, or in UTC without one; a
bare tick count out of range. -/
def datetimeText (ticks : Int64) (unit : TimeUnit) (zone : Option Zone) : List Char :=
  match unit.toDateTime? ticks, zone with
  | some utc, some zone =>
    (zone.wallClock utc).text ++ ' ' :: (zone.localAt utc.instant).abbreviation.toList
  | some utc, none => utc.text
  | none, _ => ticksText ticks unit

mutual

def text : Scalar → List Char
  | null => ['n', 'u', 'l', 'l']
  | boolean true => ['t', 'r', 'u', 'e']
  | boolean false => ['f', 'a', 'l', 's', 'e']
  | int64 v => Numeral.ofInt v.toInt
  | float64 v => v.display
  | utf8 v => v.toList
  | date days => dateText days
  | datetime ticks unit zone => datetimeText ticks unit zone
  | duration ticks unit => ticksText ticks unit
  | list [] => ['[', ']']
  | list (v :: vs) => '[' :: v.text ++ textRest vs ++ [']']

/-- The items of a list behind the first one. -/
def textRest : List Scalar → List Char
  | [] => []
  | v :: vs => ',' :: ' ' :: v.text ++ textRest vs

end

def display (v : Scalar) : String := .ofList v.text

end Scalar
end TimeTable
