/-!
# The calendar

The proleptic Gregorian calendar, with days numbered from 1970-01-01. A day number falls into a year
and a place in that year by 400-year cycles, centuries, four-year cycles and years; a cycle's last
century and a four-year cycle's last year are one day longer than the others, whence the minima.
-/

namespace TimeTable

/-- A date of the calendar; `month` and `day` count from one. -/
structure Date where
  year : Int
  month : Nat
  day : Nat
deriving DecidableEq, Inhabited

namespace Calendar

def isLeap (year : Int) : Bool := year % 4 == 0 && (year % 100 != 0 || year % 400 == 0)

def yearLength (year : Int) : Nat := if isLeap year then 366 else 365

def yearStart (year : Int) : Int :=
  let y := year - 1
  365 * y + y / 4 - y / 100 + y / 400 - 719162

def yearOf (day : Int) : Int :=
  let n := day + 719162
  let cycle := n / 146097
  let n := n % 146097
  let century := min (n / 36524) 3
  let n := n - 36524 * century
  let quad := n / 1461
  let n := n % 1461
  let rest := min (n / 365) 3
  400 * cycle + 100 * century + 4 * quad + rest + 1

/-- The place of a day in its year, from zero. -/
def dayOfYear (day : Int) : Nat := (day - yearStart (yearOf day)).toNat

def monthLengths (leap : Bool) : List Nat :=
  [31, if leap then 29 else 28, 31, 30, 31, 30, 31, 31, 30, 31, 30, 31]

/-- The length of a month, counted from one; zero for other numbers. -/
def monthLength (year : Int) (month : Nat) : Nat :=
  if month = 0 then 0 else (monthLengths (isLeap year)).getD (month - 1) 0

/-- Of consecutive stretches with the given lengths, the stretch that holds the place `n`, and the
place within it. -/
def locate : List Nat → Nat → Nat × Nat
  | [], n => (0, n)
  | l :: ls, n =>
    if n < l then (0, n) else ((locate ls (n - l)).1 + 1, (locate ls (n - l)).2)

def dateOf (day : Int) : Date :=
  let year := yearOf day
  let place := locate (monthLengths (isLeap year)) (dayOfYear day)
  ⟨year, place.1 + 1, place.2 + 1⟩

/-- The number of days of a year before a month. -/
def daysBefore (leap : Bool) (month : Nat) : Nat :=
  ((monthLengths leap).take (month - 1)).foldr (· + ·) 0

def dayOf (date : Date) : Int :=
  yearStart date.year + daysBefore (isLeap date.year) date.month + date.day - 1

def isDate (date : Date) : Bool :=
  1 ≤ date.month && date.month ≤ 12 && 1 ≤ date.day && date.day ≤ monthLength date.year date.month

/-- The first day, in the year -262143. -/
def firstDay : Int := -96465292

/-- The last day, in the year 262142. -/
def lastDay : Int := 95026236

/-- Whether a day is one of those that dates and instants may fall on. -/
def inRange (day : Int) : Bool := firstDay ≤ day && day ≤ lastDay

def check (day : Int) : Option Int := if inRange day then some day else none

/-- The day of a date, if the calendar has the date and it is in range. -/
def dayOf? (date : Date) : Option Int := if isDate date then check (dayOf date) else none

/-- The day with a given place in a year, from one, if there is one in range. -/
def dayOfOrdinal? (year : Int) (ordinal : Nat) : Option Int :=
  if 1 ≤ ordinal ∧ ordinal ≤ yearLength year then check (yearStart year + ordinal - 1) else none

/-- The date a number of months later, or earlier if it is negative; a day that the new month does
not have becomes its last one. -/
def addMonths (date : Date) (months : Int) : Date :=
  let index := date.year * 12 + (date.month - 1) + months
  let year := index / 12
  let month := (index % 12).toNat + 1
  ⟨year, month, min date.day (monthLength year month)⟩

end Calendar
end TimeTable
