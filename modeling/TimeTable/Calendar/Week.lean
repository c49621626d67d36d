import TimeTable.Calendar.Date

/-!
# Weeks

Days of the week and the numbers of weeks. An ISO week belongs to the year of its Thursday; the other
week numbers count from the first Sunday or Monday of the year.
-/

namespace TimeTable.Calendar

/-- The day of the week, counted from Monday as `0`. -/
def weekday (day : Int) : Nat := ((day + 3) % 7).toNat

/-- The Thursday of the week, from Monday to Sunday, of a day. -/
def thursdayOf (day : Int) : Int := day - weekday day + 3

/-- The year that the ISO week of a day belongs to. -/
def isoYear (day : Int) : Int := yearOf (thursdayOf day)

def isoWeek (day : Int) : Nat := dayOfYear (thursdayOf day) / 7 + 1

/-- The number of days since the last day of the week `start`. -/
def daysSince (start : Nat) (weekday : Nat) : Nat := (weekday + 7 - start) % 7

/-- The number of weeks that have begun on the day of the week `start` since the year began. -/
def weeksFrom (start : Nat) (day : Int) : Nat :=
  (dayOfYear day + 7 - daysSince start (weekday day)) / 7

/-- The Monday of the first ISO week of a year, the one with January 4. -/
def isoStart (year : Int) : Int :=
  let fourth := yearStart year + 3
  fourth - weekday fourth

/-- The day of an ISO year, week and day of the week, if that year has the week. -/
def dayOfIsoWeek? (year : Int) (week weekday : Nat) : Option Int :=
  let day := isoStart year + 7 * (week - 1 : Int) + weekday
  if 1 ≤ week ∧ isoStart year + 7 * (week - 1 : Int) < isoStart (year + 1) then check day else none

/-- The day of a year, of the week with number `week` that begins on the day `start`, and of the day
of the week `weekday`, if it falls into that year. -/
def dayOfWeek? (year : Int) (week start weekday : Nat) : Option Int := do
  let first ← check (yearStart year)
  let weekOne : Int := daysSince (Calendar.weekday first) start
  let place := weekOne + 7 * (week - 1 : Int) + daysSince start weekday
  if 53 < week ∨ place < 0 then none else dayOfOrdinal? year (place.toNat + 1)

end TimeTable.Calendar
