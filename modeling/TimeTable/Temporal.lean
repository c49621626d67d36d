import TimeTable.TimeUnit
import TimeTable.Text.Case

namespace TimeTable

/-- A field of the calendar or the clock. -/
inductive TemporalField where
  | year
  | isoYear
  | quarter
  | month
  | week
  | weekday
  | day
  | ordinalDay
  | hour
  | minute
  | second
  | millisecond
  | microsecond
  | nanosecond
deriving DecidableEq, Inhabited

namespace TemporalField

def name : TemporalField → String
  | year => "year"
  | isoYear => "iso_year"
  | quarter => "quarter"
  | month => "month"
  | week => "week"
  | weekday => "weekday"
  | day => "day"
  | ordinalDay => "ordinal_day"
  | hour => "hour"
  | minute => "minute"
  | second => "second"
  | millisecond => "millisecond"
  | microsecond => "microsecond"
  | nanosecond => "nanosecond"

def ofName? (s : String) : Option TemporalField :=
  match Text.lowered s with
  | "year" => some year
  | "iso_year" => some isoYear
  | "quarter" => some quarter
  | "month" => some month
  | "week" => some week
  | "weekday" => some weekday
  | "day" => some day
  | "ordinal_day" => some ordinalDay
  | "hour" => some hour
  | "minute" => some minute
  | "second" => some second
  | "millisecond" => some millisecond
  | "microsecond" => some microsecond
  | "nanosecond" => some nanosecond
  | _ => none

/-- Whether a field belongs to the clock, not to the calendar. -/
def isClock : TemporalField → Bool
  | hour | minute | second | millisecond | microsecond | nanosecond => true
  | _ => false

end TemporalField

/-- The unit of a count since 1970. -/
inductive EpochUnit where
  | ticks (unit : TimeUnit)
  | seconds
  | days
deriving DecidableEq

namespace EpochUnit

/-- Counts are in microseconds unless another unit is asked for. -/
instance : Inhabited EpochUnit := ⟨.ticks .microseconds⟩

def ofName? : String → Option EpochUnit
  | "s" => some seconds
  | "d" => some days
  | s => (TimeUnit.ofName? s).map ticks

def name : EpochUnit → String
  | ticks unit => unit.name
  | seconds => "s"
  | days => "d"

end EpochUnit

/-- A unit in which a duration can be given. -/
inductive DurationPart where
  | days
  | hours
  | minutes
  | seconds
  | milliseconds
  | microseconds
  | nanoseconds
deriving DecidableEq, Inhabited

namespace DurationPart

def name : DurationPart → String
  | days => "days"
  | hours => "hours"
  | minutes => "minutes"
  | seconds => "seconds"
  | milliseconds => "milliseconds"
  | microseconds => "microseconds"
  | nanoseconds => "nanoseconds"

def nanos : DurationPart → Nat
  | days => 86400000000000
  | hours => 3600000000000
  | minutes => 60000000000
  | seconds => 1000000000
  | milliseconds => 1000000
  | microseconds => 1000
  | nanoseconds => 1

end DurationPart

/-- An operation on a temporal column. Zones, patterns and shifts are given as text. -/
inductive TemporalOp where
  | field (field : TemporalField)
  | fractionalSecond
  | epoch (unit : EpochUnit)
  | timestamp (unit : TimeUnit)
  | part (part : DurationPart)
  | strftime (pattern : String)
  | withTimeUnit (unit : TimeUnit)
  | castTimeUnit (unit : TimeUnit)
  | withTimeZone (zone : String)
  | castTimeZone (zone : String)
  | tzLocalize (zone : String)
  | offsetBy (shift : String)
deriving DecidableEq

namespace TemporalOp

/-- The call of a function with a text as its argument. -/
def call (function argument : String) : String := function ++ "(\"" ++ argument ++ "\")"

def display : TemporalOp → String
  | field f => f.name ++ "()"
  | fractionalSecond => "second(fractional=true)"
  | epoch unit => call "epoch" unit.name
  | timestamp unit => call "timestamp" unit.name
  | part p => p.name ++ "()"
  | strftime pattern => call "strftime" pattern
  | withTimeUnit unit => call "with_time_unit" unit.name
  | castTimeUnit unit => call "cast_time_unit" unit.name
  | withTimeZone zone => call "with_time_zone" zone
  | castTimeZone zone => call "cast_time_zone" zone
  | tzLocalize zone => call "tz_localize" zone
  | offsetBy shift => call "offset_by" shift

end TemporalOp
end TimeTable
