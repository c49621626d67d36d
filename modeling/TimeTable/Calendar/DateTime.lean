import TimeTable.Calendar.Week
import TimeTable.Text.Numeral

/-!
# Date and time of day

A date with a time of day, without a zone. The nanosecond runs past a whole second only inside a leap
second, which is kept in second 59 and shown as second 60.
-/

namespace TimeTable

/-- A date with a time of day: the day number, the second of the day and the nanosecond. -/
structure DateTime where
  day : Int
  second : Nat
  nano : Nat
deriving DecidableEq, Inhabited

namespace DateTime

def hour (t : DateTime) : Nat := t.second / 3600

def minute (t : DateTime) : Nat := t.second / 60 % 60

def secondOfMinute (t : DateTime) : Nat := t.second % 60

def instant (t : DateTime) : Int := t.day * 86400 + t.second

/-- The date and time a number of seconds after 1970-01-01 00:00:00, and the given nanosecond. -/
def ofInstant (seconds : Int) (nano : Nat) : DateTime :=
  ⟨seconds / 86400, (seconds % 86400).toNat, nano⟩

/-- The date and time a number of seconds later, the nanosecond kept. -/
def addSeconds (t : DateTime) (seconds : Int) : DateTime := ofInstant (t.instant + seconds) t.nano

@[simp] theorem instant_ofInstant (s : Int) (n : Nat) : (ofInstant s n).instant = s := by
  simp only [ofInstant, instant]
  omega

@[simp] theorem nano_ofInstant (s : Int) (n : Nat) : (ofInstant s n).nano = n := rfl

/-- The date and time, if its day is in range. -/
def check (t : DateTime) : Option DateTime := if Calendar.inRange t.day then some t else none

/-- A year with at least four digits, and with a sign outside 0 to 9999. -/
def yearText (year : Int) : List Char :=
  if 0 ≤ year ∧ year ≤ 9999 then Numeral.zeroPadded 4 year.toNat
  else (if year < 0 then '-' else '+') :: Numeral.zeroPadded 4 year.natAbs

/-- A fraction of a second: nothing for zero, else a point and three, six or nine digits. -/
def fractionText (nano : Nat) : List Char :=
  if nano = 0 then []
  else if nano % 1000000 = 0 then '.' :: Numeral.zeroPadded 3 (nano / 1000000)
  else if nano % 1000 = 0 then '.' :: Numeral.zeroPadded 6 (nano / 1000)
  else '.' :: Numeral.zeroPadded 9 nano

/-- A date as `2001-07-08`. -/
def dateText (day : Int) : List Char :=
  let d := Calendar.dateOf day
  yearText d.year ++ '-' :: Numeral.zeroPadded 2 d.month ++ '-' :: Numeral.zeroPadded 2 d.day

/-- A time of day as `00:34:59.026`. -/
def timeText (t : DateTime) : List Char :=
  Numeral.zeroPadded 2 t.hour ++ ':' :: Numeral.zeroPadded 2 t.minute ++
    ':' :: Numeral.zeroPadded 2 (t.secondOfMinute + t.nano / 1000000000) ++
    fractionText (t.nano % 1000000000)

/-- A date and time as `2001-07-08 00:34:59.026`. -/
def text (t : DateTime) : List Char := dateText t.day ++ ' ' :: t.timeText

end DateTime
end TimeTable
