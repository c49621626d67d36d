import TimeTable.Column.Basic

/-!
# Fields, counts and parts

Integers taken out of temporal columns: fields of the calendar and the clock as the local clock shows
them, counts since 1970 of the stored instants, and durations in another unit. Cells that are missing
or out of range give missing cells; but an instant in range whose local reading is not ends the program.
-/

namespace TimeTable

namespace Column

/-- A function that may fail on a cell, if it is there. -/
def overCell {α β : Type} (f : α → Except Fault β) : Option α → Except Fault (Option β)
  | some v => (f v).map some
  | none => .ok none

/-- A function that may fail on each cell that is there. -/
def mapCells {α β : Type} (f : α → Except Fault β) (cells : List (Option α)) :
    Except Fault (List (Option β)) :=
  cells.mapM (overCell f)

end Column

/-- A date and time in UTC as the clock of a zone shows it. Without a zone the clock shows UTC; in a zone
its reading has to be in range as well, and this is not checked. -/
def DateTime.onClock (utc : DateTime) : Option Zone → Except Fault DateTime
  | none => .ok utc
  | some zone => match zone.toLocal? utc with
    | some reading => .ok reading
    | none => .error (.readingOutOfRange utc zone)

/-- The date and time of a tick count as the clock of a zone shows it. A count that is out of range has
none. -/
def TimeUnit.localDateTime? (unit : TimeUnit) (zone : Option Zone) (ticks : Int64) :
    Except Fault (Option DateTime) :=
  Column.overCell (·.onClock zone) (unit.toDateTime? ticks)

namespace Column

/-- The date and time that the clock of a zone shows in a cell, if there is one. -/
def readingOf (unit : TimeUnit) (zone : Option Zone) : Option Int64 → Except Fault (Option DateTime)
  | some ticks => unit.localDateTime? zone ticks
  | none => .ok none

/-- A function that may fail on the reading of a cell. -/
def overReading {β : Type} (unit : TimeUnit) (zone : Option Zone) (f : DateTime → Except Fault β)
    (cell : Option Int64) : Except Fault (Option β) := do
  overCell f (← readingOf unit zone cell)

end Column

namespace TemporalField

/-- The value of a field on a day, at midnight. -/
def onDay (d : Int) : TemporalField → Int
  | .year => Calendar.yearOf d
  | .isoYear => Calendar.isoYear d
  | .quarter => (((Calendar.dateOf d).month - 1) / 3 + 1 : Nat)
  | .month => (Calendar.dateOf d).month
  | .week => Calendar.isoWeek d
  | .weekday => Calendar.weekday d
  | .day => (Calendar.dateOf d).day
  | .ordinalDay => (Calendar.dayOfYear d + 1 : Nat)
  | _ => 0

/-- The value of a field at a date and time. -/
def ofDateTime (t : DateTime) : TemporalField → Int
  | .hour => t.hour
  | .minute => t.minute
  | .second => t.secondOfMinute
  | .millisecond => (t.nano / 1000000 : Nat)
  | .microsecond => (t.nano / 1000 : Nat)
  | .nanosecond => t.nano
  | field => field.onDay t.day

end TemporalField

namespace Column

/-- The field of each row of a column of dates or instants; dates have no clock. -/
def extract (field : TemporalField) : Column → Except Fault Column
  | ⟨name, .date, cells⟩ =>
    if field.isClock then .error (.unsupported field.name name .date)
    else .ok ⟨name, .int64, cells.map fun cell => do
      some (Int64.ofInt (field.onDay (← Calendar.check (← cell).toInt)))⟩
  | ⟨name, .datetime unit zone, cells⟩ => do
    .ok ⟨name, .int64, ← cells.mapM (overReading unit zone fun t => .ok (Int64.ofInt (field.ofDateTime t)))⟩
  | c => .error (.unsupported field.name c.name c.dtype)

/-- The second of the minute with its fraction as a floating-point number. -/
def fractionalSecond (t : DateTime) : Binary64 :=
  .ofInt t.secondOfMinute + .ofInt t.nano / .ofInt 1000000000

/-- The second of each row of a column of instants, with its fraction. -/
def extractSecond : Column → Except Fault Column
  | ⟨name, .datetime unit zone, cells⟩ => do
    .ok ⟨name, .float64, ← cells.mapM (overReading unit zone fun t => .ok (fractionalSecond t))⟩
  | c => .error (.unsupported TemporalField.second.name c.name c.dtype)

/-- A tick count of instants as a count of another unit. -/
def epochOfTicks (unit : TimeUnit) (ticks : Int64) : EpochUnit → Except Fault Int64
  | .ticks target => match unit.rescale? ticks target with
    | some n => .ok n
    | none => .error (.rescaleOverflow ticks unit target)
  | .seconds => .ok (Int64.ofInt (ticks.toInt / unit.perSecond))
  | .days => .ok (Int64.ofInt (ticks.toInt / (unit.perSecond * 86400)))

def epochOfDay (day : Int32) : EpochUnit → Except Fault Int64
  | .ticks target => match Word.int64? (day.toInt * 86400 * target.perSecond) with
    | some n => .ok n
    | none => .error (.epochOverflow day)
  | .seconds => .ok (Int64.ofInt (day.toInt * 86400))
  | .days => .ok (Int64.ofInt day.toInt)

/-- The count since 1970 of each row of a column of dates or instants. -/
def epoch (unit : EpochUnit) : Column → Except Fault Column
  | ⟨name, .date, cells⟩ => do
    .ok ⟨name, .int64, ← mapCells (epochOfDay · unit) cells⟩
  | ⟨name, .datetime stored _, cells⟩ => do
    .ok ⟨name, .int64, ← mapCells (epochOfTicks stored · unit) cells⟩
  | c => .error (.unsupported "epoch" c.name c.dtype)

/-- A duration in a unit, what is left over being dropped toward zero. -/
def partOf (part : DurationPart) (unit : TimeUnit) (ticks : Int64) : Except Fault Int64 :=
  match Word.int64? ((ticks.toInt * unit.nanos).tdiv part.nanos) with
  | some n => .ok n
  | none => .error (.partOverflow part ticks unit)

/-- Each row of a column of durations in a unit. -/
def durationPart (part : DurationPart) : Column → Except Fault Column
  | ⟨name, .duration unit, cells⟩ => do
    .ok ⟨name, .int64, ← mapCells (partOf part unit) cells⟩
  | c => .error (.unsupported part.name c.name c.dtype)

end Column
end TimeTable
