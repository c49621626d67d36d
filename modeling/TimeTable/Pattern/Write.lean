import TimeTable.Pattern.Item
import TimeTable.Pattern.Names
import TimeTable.Zone.Basic

namespace TimeTable.Pattern

/-- What is written: a day, with its time of day if it has one, and the offset of its zone. -/
structure Subject where
  day : Int
  time : Option DateTime
  offset : Option ZoneOffset

def Subject.ofDay (day : Int) : Subject := ⟨day, none, none⟩

def Subject.ofDateTime (t : DateTime) : Subject := ⟨t.day, some t, none⟩

/-- A date and time in UTC as it reads in a zone. -/
def Subject.inZone (zone : Zone) (utc : DateTime) : Subject :=
  let t := zone.wallClock utc
  ⟨t.day, some t, some (zone.localAt utc.instant)⟩

/-- A number below 256 as two digits, the first of which may run past nine. -/
def twoDigits (pad : Pad) (n : Nat) : List Char :=
  (match n / 10, pad with
    | 0, .none => []
    | 0, .blank => [' ']
    | tens, _ => [Numeral.digit tens]) ++ [Numeral.digit (n % 10)]

def padded (pad : Pad) (width : Nat) (n : Int) : List Char :=
  match pad with
  | .none => Numeral.ofInt n
  | .zero => Numeral.zeroPaddedInt width n
  | .blank => Numeral.padStart ' ' width (Numeral.ofInt n)

/-- A year: four digits wide, and one more with the sign that years outside 0 to 9999 carry. -/
def yearDigits (pad : Pad) (year : Int) : List Char :=
  if 0 ≤ year ∧ year ≤ 9999 then padded pad 4 year
  else match pad with
    | .none => Numeral.signed year
    | .zero => DateTime.yearText year
    | .blank => Numeral.padStart ' ' 5 (Numeral.signed year)

/-- The hour on a clock of twelve hours. -/
def clockHour (hour : Nat) : Nat := if hour % 12 = 0 then 12 else hour % 12

def writeDayPart? (pad : Pad) (day : Int) : Part → Option (List Char)
  | .year => some (yearDigits pad (Calendar.yearOf day))
  | .century => some (twoDigits pad (Calendar.yearOf day / 100 % 256).toNat)
  | .yearOfCentury => some (twoDigits pad (Calendar.yearOf day % 100).toNat)
  | .isoYear => some (yearDigits pad (Calendar.isoYear day))
  | .isoYearOfCentury => some (twoDigits pad (Calendar.isoYear day % 100).toNat)
  | .quarter => some [Numeral.digit (((Calendar.dateOf day).month - 1) / 3 + 1)]
  | .month => some (twoDigits pad (Calendar.dateOf day).month)
  | .day => some (twoDigits pad (Calendar.dateOf day).day)
  | .weekFromSunday => some (twoDigits pad (Calendar.weeksFrom 6 day))
  | .weekFromMonday => some (twoDigits pad (Calendar.weeksFrom 0 day))
  | .isoWeek => some (twoDigits pad (Calendar.isoWeek day))
  | .daysFromSunday => some [Numeral.digit ((Calendar.weekday day + 1) % 7)]
  | .weekdayFromMonday => some [Numeral.digit (Calendar.weekday day + 1)]
  | .ordinal => some (padded pad 3 (Calendar.dayOfYear day + 1 : Nat))
  | _ => none

/-- A part of a time of day as a number; the timestamp takes the offset off. -/
def writeTimePart? (pad : Pad) (t : DateTime) (offset : Int) : Part → Option (List Char)
  | .hour => some (twoDigits pad t.hour)
  | .hour12 => some (twoDigits pad (clockHour t.hour))
  | .minute => some (twoDigits pad t.minute)
  | .second => some (twoDigits pad (t.secondOfMinute + t.nano / 1000000000))
  | .nanosecond => some (padded pad 9 (t.nano % 1000000000 : Nat))
  | .timestamp => some (padded pad 9 (t.instant - offset))
  | _ => none

def writePart? (pad : Pad) (subject : Subject) (part : Part) : Option (List Char) :=
  (writeDayPart? pad subject.day part).or do
    let t ← subject.time
    writeTimePart? pad t ((subject.offset.map ZoneOffset.seconds).getD 0) part

/-- The first places of the fraction of a second. -/
def placesText (count : Nat) (nano : Nat) : List Char :=
  Numeral.zeroPadded count (nano % 1000000000 / Nat.pow 10 (9 - count))

/-- An offset from UTC. Without seconds it is rounded to the nearest minute, and with hours alone it
is cut. -/
def offsetText (colons : Nat) (seconds : Int) : List Char :=
  let sign := if seconds < 0 then '-' else '+'
  let n := seconds.natAbs
  let minutes := if colons < 2 then (n + 30) / 60 else n / 60
  let colon := if colons = 0 then [] else [':']
  sign :: Numeral.zeroPadded 2 (minutes / 60) ++
    (if 2 < colons then [] else colon ++ Numeral.zeroPadded 2 (minutes % 60)) ++
    (if colons = 2 then colon ++ Numeral.zeroPadded 2 (n % 60) else [])

/-- The half of the day, in capitals or small letters. -/
def halfDayText (capital : Bool) (hour : Nat) : List Char :=
  match decide (hour < 12), capital with
  | true, true => ['A', 'M']
  | true, false => ['a', 'm']
  | false, true => ['P', 'M']
  | false, false => ['p', 'm']

/-- An item as it is written, if the subject has what it asks for. -/
def Item.write? (subject : Subject) : Item → Option (List Char)
  | .literal c => some [c]
  | .blank c => some [c]
  | .number part pad => writePart? pad subject part
  | .monthName full => some (nameAt monthNames full ((Calendar.dateOf subject.day).month - 1))
  | .weekdayName full => some (nameAt weekdayNames full (Calendar.weekday subject.day))
  | .halfDay capital => subject.time.map fun t => halfDayText capital t.hour
  | .fraction => subject.time.map fun t => DateTime.fractionText (t.nano % 1000000000)
  | .places count point =>
    subject.time.map fun t => (if point then ['.'] else []) ++ placesText count t.nano
  | .zoneName => subject.offset.map fun o => o.abbreviation.toList
  | .offset colons => subject.offset.map fun o => offsetText colons o.seconds
  | .looseOffset => none
  | .rfc3339 => do
    let t ← subject.time
    let o ← subject.offset
    some (DateTime.dateText t.day ++ 'T' :: t.timeText ++ offsetText 1 o.seconds)

/-- A subject written by a pattern, if it has what every item asks for. -/
def write? (items : List Item) (subject : Subject) : Option (List Char) :=
  (items.mapM (Item.write? subject)).map List.flatten

end TimeTable.Pattern
