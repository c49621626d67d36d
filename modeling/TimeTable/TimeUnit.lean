import TimeTable.Calendar.DateTime
import TimeTable.Word

namespace TimeTable

/-- The unit of a tick count. -/
inductive TimeUnit where
  | nanoseconds
  | microseconds
  | milliseconds
deriving DecidableEq, Inhabited

namespace TimeUnit

def ofName? : String → Option TimeUnit
  | "ns" => some .nanoseconds
  | "us" => some .microseconds
  | "ms" => some .milliseconds
  | _ => none

def name : TimeUnit → String
  | .nanoseconds => "ns"
  | .microseconds => "us"
  | .milliseconds => "ms"

@[simp] theorem ofName?_name (u : TimeUnit) : ofName? u.name = some u := by cases u <;> rfl

def perSecond : TimeUnit → Nat
  | .nanoseconds => 1000000000
  | .microseconds => 1000000
  | .milliseconds => 1000

def nanos (u : TimeUnit) : Nat := 1000000000 / u.perSecond

/-- The exact or truncated count of a value in another unit: a finer unit multiplies, a coarser one
drops what is left of a tick toward zero. -/
def scaled (u : TimeUnit) (value : Int) (target : TimeUnit) : Int :=
  if u.perSecond ≤ target.perSecond then value * (target.perSecond / u.perSecond : Nat)
  else value.tdiv (u.perSecond / target.perSecond : Nat)

/-- The count of a value in another unit, if it fits a word. -/
def rescale? (u : TimeUnit) (value : Int64) (target : TimeUnit) : Option Int64 :=
  Word.int64? (u.scaled value.toInt target)

/-- The date and time in UTC of a tick count, if it is in range. -/
def toDateTime? (u : TimeUnit) (value : Int64) : Option DateTime :=
  (DateTime.ofInstant (value.toInt / u.perSecond)
    ((value.toInt % u.perSecond).toNat * u.nanos)).check

/-- The tick count of a date and time in UTC. The whole seconds have to fit a word of their own. -/
def ofDateTime? (u : TimeUnit) (t : DateTime) : Option Int64 := do
  let whole ← Word.int64? (t.instant * u.perSecond)
  Word.int64? (whole.toInt + (t.nano / u.nanos : Nat))

end TimeUnit
end TimeTable
