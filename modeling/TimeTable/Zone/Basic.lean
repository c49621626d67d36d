import TimeTable.Calendar.DateTime

/-!
# Time zones

A zone gives each instant an offset from UTC, constant between its transitions. A reading of the
local clock belongs to every instant that shows it: none when the clock is set forward past it, two
when the clock is set back over it.
-/

namespace TimeTable

/-- An offset from UTC in seconds, east being positive, and the abbreviation used with it. It is shorter
than a day. -/
structure ZoneOffset where
  seconds : Int
  abbreviation : String
  short : decide (seconds.natAbs < 86400) = true := by exact Eq.refl true
deriving DecidableEq

instance : Inhabited ZoneOffset := ⟨{ seconds := 0, abbreviation := "UTC" }⟩

/-- A time zone: its offset at first, and the later ones with the instants they begin at, in seconds
since 1970. -/
structure Zone where
  name : String
  initial : ZoneOffset
  transitions : List (Int × ZoneOffset)
deriving DecidableEq, Inhabited

namespace Zone

/-- The offset that holds at an instant: that of the last transition not after it. -/
def localAt (zone : Zone) (instant : Int) : ZoneOffset :=
  zone.transitions.foldl (fun held next => if next.1 ≤ instant then next.2 else held) zone.initial

/-- The seconds that the local clock is ahead of UTC at an instant. -/
def offsetAt (zone : Zone) (instant : Int) : Int := (zone.localAt instant).seconds

/-- What the local clock shows at a date and time in UTC. As it is written it may be out of range. -/
def wallClock (zone : Zone) (utc : DateTime) : DateTime :=
  utc.addSeconds (zone.offsetAt utc.instant)

/-- The local date and time of a date and time in UTC, if it is in range. -/
def toLocal? (zone : Zone) (utc : DateTime) : Option DateTime := (zone.wallClock utc).check

def offsets (zone : Zone) : List Int :=
  (zone.initial.seconds :: zone.transitions.map fun t => t.2.seconds).eraseDups

/-- The instants at which the local clock shows a number of seconds since 1970. -/
def instantsOf (zone : Zone) (reading : Int) : List Int :=
  (zone.offsets.map (reading - ·)).filter fun instant =>
    instant + zone.offsetAt instant == reading

/-- The earliest instant at which the local clock shows a date and time, as a date and time in UTC,
if there is one and it is in range. -/
def ofLocal? (zone : Zone) (reading : DateTime) : Option DateTime := do
  let instant ← (zone.instantsOf reading.instant).min?
  (DateTime.ofInstant instant reading.nano).check

end Zone
end TimeTable
