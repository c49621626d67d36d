import TimeTable.Calendar.DateTime

/-!
# Fields of a date and time

What has been read of a date and time so far, and what date and time it amounts to. Any set of fields
that determines a date will do; fields beyond those have to agree with it.
-/

namespace TimeTable.Pattern

/-- A field of a date and time. The hour is kept as a half of the day and an hour of the half. -/
inductive Field where
  | year
  | century
  | yearOfCentury
  | isoYear
  | isoCentury
  | isoYearOfCentury
  | quarter
  | month
  | weekFromSunday
  | weekFromMonday
  | isoWeek
  | weekday
  | ordinal
  | day
  | half
  | hour
  | minute
  | second
  | nanosecond
  | timestamp
  | offset
deriving DecidableEq

def Field.admits (n : Int) : Field → Bool
  | .year | .isoYear | .offset => -0x80000000 ≤ n && n < 0x80000000
  | .century | .isoCentury => 0 ≤ n && n < 0x80000000
  | .yearOfCentury | .isoYearOfCentury => 0 ≤ n && n ≤ 99
  | .quarter => 1 ≤ n && n ≤ 4
  | .month => 1 ≤ n && n ≤ 12
  | .weekFromSunday | .weekFromMonday => 0 ≤ n && n ≤ 53
  | .isoWeek => 1 ≤ n && n ≤ 53
  | .weekday => 0 ≤ n && n ≤ 6
  | .ordinal => 1 ≤ n && n ≤ 366
  | .day => 1 ≤ n && n ≤ 31
  | .half => 0 ≤ n && n ≤ 1
  | .hour => 0 ≤ n && n ≤ 11
  | .minute => 0 ≤ n && n ≤ 59
  | .second => 0 ≤ n && n ≤ 60
  | .nanosecond => 0 ≤ n && n ≤ 999999999
  | .timestamp => true

def Fields : Type := Field → Option Int

/-- Nothing read. -/
def Fields.empty : Fields := fun _ => none

/-- One more field, if its value is admitted and agrees with what was read before. -/
def Fields.put? (fields : Fields) (field : Field) (n : Int) : Option Fields :=
  if field.admits n then
    match fields field with
    | none => some fun f => if f = field then some n else fields f
    | some m => if m = n then some fields else none
  else none

def Fields.putHour? (fields : Fields) (hour : Int) : Option Fields := do
  (← fields.put? .half (hour / 12)).put? .hour (hour % 12)

/-- Why fields do not amount to a date or a time: too few of them, or no such date. -/
inductive Lack where
  | missing
  | impossible
deriving DecidableEq

/-- The century and the year of the century, for years that are not negative. -/
def centuryParts (year : Int) : Option Int × Option Int :=
  if 0 ≤ year then (some (year / 100), some (year % 100)) else (none, none)

/-- The value of a field of a date on a day. -/
def Field.onDay? (day : Int) : Field → Option Int
  | .year => some (Calendar.yearOf day)
  | .century => (centuryParts (Calendar.yearOf day)).1
  | .yearOfCentury => (centuryParts (Calendar.yearOf day)).2
  | .isoYear => some (Calendar.isoYear day)
  | .isoCentury => (centuryParts (Calendar.isoYear day)).1
  | .isoYearOfCentury => (centuryParts (Calendar.isoYear day)).2
  | .quarter => some (((Calendar.dateOf day).month - 1) / 3 + 1 : Nat)
  | .month => some (Calendar.dateOf day).month
  | .weekFromSunday => some (Calendar.weeksFrom 6 day)
  | .weekFromMonday => some (Calendar.weeksFrom 0 day)
  | .isoWeek => some (Calendar.isoWeek day)
  | .weekday => some (Calendar.weekday day)
  | .ordinal => some (Calendar.dayOfYear day + 1 : Nat)
  | .day => some (Calendar.dateOf day).day
  | _ => none

def Field.ofDate : List Field :=
  [.year, .century, .yearOfCentury, .isoYear, .isoCentury, .isoYearOfCentury, .quarter, .month,
    .weekFromSunday, .weekFromMonday, .isoWeek, .weekday, .ordinal, .day]

/-- Whether every field of a date that was read has its value on a day. -/
def Fields.agree (fields : Fields) (day : Int) : Bool :=
  Field.ofDate.all fun f => match fields f with
    | none => true
    | some n => f.onDay? day == some n

/-- The year that a year, a century and a year of the century stand for, if any. Two digits alone
mean a year from 1970 to 2069. -/
def resolveYear : Option Int → Option Int → Option Int → Except Lack (Option Int)
  | year, none, none => .ok year
  | some year, century, rest =>
    let parts := centuryParts year
    if (century.isNone || century == parts.1) && (rest.isNone || rest == parts.2) && 0 ≤ year then
      .ok (some year)
    else .error .impossible
  | none, some century, some rest => .ok (some (century * 100 + rest))
  | none, none, some rest => .ok (some (rest + if rest < 70 then 2000 else 1900))
  | none, some _, none => .error .missing

/-- A day, or the statement that there is none. -/
def orImpossible : Option Int → Except Lack Int
  | some day => .ok day
  | none => .error .impossible

/-- The first day that the fields determine: by month and day, by the day of the year, by a week and
the day of the week, or by the ISO week. -/
def Fields.candidate (fields : Fields) (year isoYear : Option Int) : Except Lack Int :=
  match year, fields .month, fields .day with
  | some y, some m, some d => orImpossible (Calendar.dayOf? ⟨y, m.toNat, d.toNat⟩)
  | _, _, _ =>
  match year, fields .ordinal with
  | some y, some n => orImpossible (Calendar.dayOfOrdinal? y n.toNat)
  | _, _ =>
  match year, fields .weekFromSunday, fields .weekday with
  | some y, some w, some d => orImpossible (Calendar.dayOfWeek? y w.toNat 6 d.toNat)
  | _, _, _ =>
  match year, fields .weekFromMonday, fields .weekday with
  | some y, some w, some d => orImpossible (Calendar.dayOfWeek? y w.toNat 0 d.toNat)
  | _, _, _ =>
  match isoYear, fields .isoWeek, fields .weekday with
  | some y, some w, some d => orImpossible (Calendar.dayOfIsoWeek? y w.toNat d.toNat)
  | _, _, _ => .error .missing

def Fields.day (fields : Fields) : Except Lack Int := do
  let year ← resolveYear (fields .year) (fields .century) (fields .yearOfCentury)
  let isoYear ← resolveYear (fields .isoYear) (fields .isoCentury) (fields .isoYearOfCentury)
  let day ← fields.candidate year isoYear
  if fields.agree day then .ok day else .error .impossible

/-- The day that the fields amount to, if they do. -/
def Fields.day? (fields : Fields) : Option Int := fields.day.toOption

/-- The second of the day and the nanosecond that the fields amount to. Seconds may be left out, but
not before a fraction; second 60 is a leap second. -/
def Fields.time? (fields : Fields) : Option (Nat × Nat) := do
  let half ← fields .half
  let hour ← fields .hour
  let minute ← fields .minute
  let start := ((half * 12 + hour) * 60 + minute) * 60
  let nano := (fields .nanosecond).getD 0
  match fields .second with
  | some 60 => some ((start + 59).toNat, (nano + 1000000000).toNat)
  | some second => some ((start + second).toNat, nano.toNat)
  | none => if (fields .nanosecond).isSome then none else some (start.toNat, 0)

/-- The fields of a date and time given by its seconds since 1970, beside those that were read. A
second 60 that was read belongs to the end of the minute before. -/
def Fields.putInstant? (fields : Fields) (instant : Int) : Option Fields := do
  let t ← (DateTime.ofInstant instant 0).check
  let t ← if fields .second = some 60 then
      if t.secondOfMinute = 59 then some t
      else if t.secondOfMinute = 0 then some (t.addSeconds (-1))
      else none
    else some t
  let fields ← if fields .second = some 60 then some fields
    else fields.put? .second t.secondOfMinute
  let fields ← fields.put? .year (Calendar.yearOf t.day)
  let fields ← fields.put? .ordinal (Calendar.dayOfYear t.day + 1)
  let fields ← fields.putHour? t.hour
  fields.put? .minute t.minute

/-- A day and a time of day as a date and time. -/
def Fields.plain? (fields : Fields) : Option DateTime := do
  let day ← fields.day?
  let (second, nano) ← fields.time?
  some ⟨day, second, nano⟩

/-- The date and time that the fields amount to. A timestamp has to agree with a date and time that
were read, or else takes their place. -/
def Fields.dateTime? (fields : Fields) : Option DateTime :=
  match fields.plain?, fields .timestamp with
  | some t, none => some t
  | some t, some n =>
    if n = t.instant ∨ (1000000000 ≤ t.nano ∧ n = t.instant + 1) then some t else none
  | none, some n => match fields.day with
    | .error .impossible => none
    | _ => (fields.putInstant? n).bind Fields.plain?
  | none, none => none

end TimeTable.Pattern
