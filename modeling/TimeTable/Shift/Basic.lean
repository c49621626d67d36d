import TimeTable.Calendar.DateTime
import TimeTable.Text.Blank
import TimeTable.Word

/-!
# Shifts

A shift moves a date or instant by months, days and a fixed time. It is written as a list of counts
with units, such as `1mo2d12h`, and with a minus sign in front if it goes back.
-/

namespace TimeTable

/-- A shift: months and days of the calendar, and nanoseconds of fixed length. -/
structure Shift where
  months : Int
  days : Int
  nanos : Int
deriving DecidableEq, Inhabited

namespace Shift

/-- The parts of a shift. -/
inductive Part where
  | months
  | days
  | nanos
deriving DecidableEq

/-- A unit of written shifts: its sign and how much of which part it stands for. -/
structure Measure where
  sign : List Char
  part : Part
  scale : Nat

/-- The units of written shifts. Longer signs come before the shorter ones that they begin with. -/
def measures : List Measure :=
  [⟨['n', 's'], .nanos, 1⟩, ⟨['u', 's'], .nanos, 1000⟩, ⟨['m', 's'], .nanos, 1000000⟩,
    ⟨['m', 'o'], .months, 1⟩, ⟨['s'], .nanos, 1000000000⟩, ⟨['m'], .nanos, 60000000000⟩,
    ⟨['h'], .nanos, 3600000000000⟩, ⟨['d'], .days, 1⟩, ⟨['w'], .days, 7⟩, ⟨['q'], .months, 3⟩,
    ⟨['y'], .months, 12⟩]

def zero : Shift := ⟨0, 0, 0⟩

/-- Whether a shift has a part of fixed length. -/
def hasClock (shift : Shift) : Bool := shift.nanos != 0

def negate (shift : Shift) : Shift := ⟨-shift.months, -shift.days, -shift.nanos⟩

def get (shift : Shift) : Part → Int
  | .months => shift.months
  | .days => shift.days
  | .nanos => shift.nanos

/-- The shift with another amount of a part. -/
def set (shift : Shift) (n : Int) : Part → Shift
  | .months => { shift with months := n }
  | .days => { shift with days := n }
  | .nanos => { shift with nanos := n }

/-- The shift with a count of a unit added, as long as the count, its amount and the sum fit words. -/
def add? (shift : Shift) (count : Nat) (unit : Measure) : Option Shift := do
  let count ← Word.int64? count
  let amount ← Word.int64? (count.toInt * unit.scale)
  let total ← Word.int64? (shift.get unit.part + amount.toInt)
  some (shift.set total.toInt unit.part)

/-- The unit that a text begins with and the rest of the text. -/
def unit? (s : List Char) : Option (Measure × List Char) :=
  (measures.find? fun unit => unit.sign.isPrefixOf s).map fun unit => (unit, s.drop unit.sign.length)

/-- The counts with units that a text consists of. -/
def counts? (s : List Char) : Option (List (Nat × Measure)) :=
  match s with
  | [] => some []
  | c :: s =>
    let digits := (c :: s).takeWhile Numeral.isDigit
    match Numeral.readNat? digits, unit? ((c :: s).dropWhile Numeral.isDigit) with
    | some n, some (unit, rest) =>
      if _h : rest.length < (c :: s).length then (counts? rest).map ((n, unit) :: ·) else none
    | _, _ => none
termination_by s.length
decreasing_by exact _h

/-- A shift without a sign: one or more counts with units, added up. -/
def readUnsigned? (s : List Char) : Option Shift := do
  let counts ← counts? s
  if counts.isEmpty then none else counts.foldlM (fun shift count => shift.add? count.1 count.2) zero

/-- A written shift, blanks around it left aside. -/
def read? (s : List Char) : Option Shift :=
  match Text.trim s with
  | '-' :: s => (readUnsigned? s).map negate
  | s => readUnsigned? s

/-- The day that a shift moves a day to; the month first, then the days, both within range. -/
def day? (shift : Shift) (day : Int) : Option Int := do
  let moved ← Calendar.check
    (Calendar.dayOf (Calendar.addMonths (Calendar.dateOf day) shift.months))
  Calendar.check (moved + shift.days)

/-- The date that the calendar part of a shift moves a date and time to, at the same time of day. -/
def dateTime? (shift : Shift) (t : DateTime) : Option DateTime :=
  (shift.day? t.day).map fun day => ⟨day, t.second, t.nano⟩

end Shift
end TimeTable
