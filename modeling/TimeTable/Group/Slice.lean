import TimeTable.Group.Index

namespace TimeTable

/-- Which end of each group is kept. -/
inductive GroupSlice where
  | head
  | tail
deriving DecidableEq, Inhabited

namespace GroupSlice

def name : GroupSlice → String
  | head => "head"
  | tail => "tail"

/-- The number of rows that is kept if none is asked for. -/
def defaultLength : Int64 := 5

/-- The number of rows to keep; it may not be negative. -/
def checkLength (n : Int64) : Except Fault Nat :=
  if n.toInt < 0 then .error (.negativeLength n) else .ok n.toInt.toNat

/-- The first or last `n` rows of a group. -/
def apply (slice : GroupSlice) (rows : List Nat) (n : Nat) : List Nat :=
  match slice with
  | head => rows.take n
  | tail => rows.drop (rows.length - n)

/-- The first or last `n` rows of every group. -/
def selectRows (slice : GroupSlice) (index : GroupIndex) (n : Nat) : List Nat :=
  index.groups.flatMap fun rows => slice.apply rows n

end GroupSlice
end TimeTable
