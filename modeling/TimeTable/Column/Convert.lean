import TimeTable.Column.Extract
import TimeTable.DataType.Read

/-!
# Units and zones of columns

The two ways to change the unit or the zone of a column: to relabel its ticks, which changes the
instants they stand for, and to cast them, which keeps the instants or the readings of the clock.
-/

namespace TimeTable

namespace Column

/-- The ticks of a column under another unit. -/
def withTimeUnit (unit : TimeUnit) : Column → Except Fault Column
  | ⟨name, .datetime _ zone, cells⟩ => .ok ⟨name, .datetime unit zone, cells⟩
  | ⟨name, .duration _, cells⟩ => .ok ⟨name, .duration unit, cells⟩
  | c => .error (.needsUnit "with_time_unit" c.name c.dtype)

def rescale (unit target : TimeUnit) (ticks : Int64) : Except Fault Int64 :=
  match unit.rescale? ticks target with
  | some n => .ok n
  | none => .error (.rescaleOverflow ticks unit target)

/-- The ticks of a column counted in another unit. -/
def castTimeUnit (target : TimeUnit) : Column → Except Fault Column
  | ⟨name, .datetime unit zone, cells⟩ => do
    .ok ⟨name, .datetime target zone, ← mapCells (rescale unit target) cells⟩
  | ⟨name, .duration unit, cells⟩ => do
    .ok ⟨name, .duration target, ← mapCells (rescale unit target) cells⟩
  | c => .error (.needsUnit "cast_time_unit" c.name c.dtype)

end Column

/-- The date and time in UTC at which the clock of a zone first shows a date and time. Without a zone
the clock shows UTC. -/
def DateTime.toUtc (reading : DateTime) : Option Zone → Except Fault DateTime
  | none => .ok reading
  | some zone => match zone.ofLocal? reading with
    | some utc => .ok utc
    | none => .error (.noInstant reading zone)

/-- The tick count of a reading of the clock of a zone. -/
def DateTime.localize (reading : DateTime) (zone : Option Zone) (unit : TimeUnit) :
    Except Fault Int64 := do
  let utc ← reading.toUtc zone
  match unit.ofDateTime? utc with
  | some ticks => .ok ticks
  | none => .error (.noTick utc unit)

namespace Column

def withTimeZone (zone : Zone) : Column → Except Fault Column
  | ⟨name, .datetime unit _, cells⟩ => .ok ⟨name, .datetime unit (some zone), cells⟩
  | c => .error (.needsDatetime "with_time_zone" c.name c.dtype)

/-- The tick counts that have in a new zone the readings that the given ones have in the old zone. -/
def reanchor (unit : TimeUnit) (old : Option Zone) (zone : Zone) (cells : List (Option Int64)) :
    Except Fault (List (Option Int64)) :=
  cells.mapM (overReading unit old fun reading => reading.localize (some zone) unit)

/-- The same readings of the clock in another zone. -/
def castTimeZone (zone : Zone) : Column → Except Fault Column
  | ⟨name, .datetime unit old, cells⟩ => do
    .ok ⟨name, .datetime unit (some zone), ← reanchor unit old zone cells⟩
  | c => .error (.needsDatetime "cast_time_zone" c.name c.dtype)

/-- The same readings of the clock in a zone, for a column that has none. -/
def localize (zone : Zone) : Column → Except Fault Column
  | ⟨name, .datetime unit none, cells⟩ => do
    .ok ⟨name, .datetime unit (some zone), ← reanchor unit none zone cells⟩
  | ⟨name, .datetime _ (some old), _⟩ => .error (.alreadyZoned name old)
  | c => .error (.needsDatetime "tz_localize" c.name c.dtype)

end Column
end TimeTable
