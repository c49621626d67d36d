import TimeTable.Column.Convert
import TimeTable.Pattern.Write
import TimeTable.Shift.Basic

namespace TimeTable.Column

def writeBy (pattern : String) (dtype : DataType) (items : List Pattern.Item)
    (subject : Pattern.Subject) : Except Fault String :=
  match Pattern.write? items subject with
  | some text => .ok (.ofList text)
  | none => .error (.inapplicablePattern pattern dtype)

/-- An instant in UTC as it is written in a zone, or as it is without one. -/
def subjectOf (zone : Option Zone) (utc : DateTime) : Pattern.Subject :=
  match zone with
  | some zone => .inZone zone utc
  | none => .ofDateTime utc

/-- Each row of a column of dates or instants written by a pattern. -/
def strftime (pattern : String) (c : Column) : Except Fault Column :=
  match Pattern.parse? pattern.toList, c with
  | none, _ => .error (.invalidPattern pattern)
  | some items, ⟨name, .date, cells⟩ => do
    let days := cells.map fun cell => cell.bind fun day => Calendar.check day.toInt
    .ok ⟨name, .utf8, ← mapCells (fun day => writeBy pattern .date items (.ofDay day)) days⟩
  | some items, ⟨name, .datetime unit zone, cells⟩ => do
    let times := cells.map fun cell => cell.bind unit.toDateTime?
    .ok ⟨name, .utf8, ←
      mapCells (fun t => writeBy pattern (.datetime unit zone) items (subjectOf zone t)) times⟩
  | some _, c => .error (.unsupported "strftime" c.name c.dtype)

/-- A day shifted by the calendar, if it stays in range. -/
def shiftDay (shift : Shift) (day : Int32) : Option Int32 := do
  some (Int32.ofInt (← shift.day? (← Calendar.check day.toInt)))

/-- A tick count shifted. The calendar part moves the reading of the clock, whose new instant has to
exist; the fixed part is added to the ticks. What leaves the range is missing. -/
def shiftTicks (shift : Shift) (unit : TimeUnit) (zone : Option Zone) (ticks : Int64) :
    Except Fault (Option Int64) :=
  let add (n : Int64) : Option Int64 := Word.int64? (n.toInt + shift.nanos / unit.nanos)
  if shift.months = 0 ∧ shift.days = 0 then .ok (add ticks)
  else do
    match (← unit.localDateTime? zone ticks).bind shift.dateTime? with
    | none => .ok none
    | some reading => do
      let utc ← reading.toUtc zone
      .ok ((unit.ofDateTime? utc).bind add)

/-- Each row of a column of dates or instants shifted. -/
def offsetBy (text : String) (c : Column) : Except Fault Column :=
  match Shift.read? text.toList, c with
  | none, _ => .error (.invalidShift text)
  | some shift, ⟨name, .date, cells⟩ =>
    if shift.hasClock then .error (.clockShift text name)
    else .ok ⟨name, .date, cells.map fun cell => cell.bind (shiftDay shift)⟩
  | some shift, ⟨name, .datetime unit zone, cells⟩ =>
    if shift.nanos % unit.nanos ≠ 0 then .error (.fineShift text unit name)
    else do
      let cells ← mapCells (shiftTicks shift unit zone) cells
      .ok ⟨name, .datetime unit zone, cells.map Option.join⟩
  | some _, c => .error (.needsDate c.name c.dtype)

end TimeTable.Column

namespace TimeTable

/-- The column that a temporal operation makes of a column. -/
def TemporalOp.apply (c : Column) : TemporalOp → Except Fault Column
  | field f => c.extract f
  | fractionalSecond => c.extractSecond
  | epoch unit => c.epoch unit
  | timestamp unit => c.epoch (.ticks unit)
  | part p => c.durationPart p
  | strftime pattern => c.strftime pattern
  | withTimeUnit unit => c.withTimeUnit unit
  | castTimeUnit unit => c.castTimeUnit unit
  | withTimeZone zone => do c.withTimeZone (← Zone.named zone)
  | castTimeZone zone => do c.castTimeZone (← Zone.named zone)
  | tzLocalize zone => do c.localize (← Zone.named zone)
  | offsetBy shift => c.offsetBy shift

end TimeTable
