import Std.Data.HashMap
import TimeTable.Group.Key

/-!
# Group indexes

The rows of a table sorted into groups of equal keys. Groups come in the order of their first rows and
rows ascend within a group. The hash of the keys only narrows the search for a row's group: rows of one
hash are still compared key by key, so no choice of hash changes the groups.
-/

namespace TimeTable

/-- Groups of row numbers, and the number of rows that they were made from. -/
structure GroupIndex where
  groups : List (List Nat)
  rowCount : Nat
deriving DecidableEq, Inhabited

namespace GroupIndex

/-- A group in the making: its first row and the others. -/
structure Growing where
  first : Nat
  others : Array Nat

def Growing.rows (g : Growing) : List Nat := g.first :: g.others.toList

def Growing.push (g : Growing) (row : Nat) : Growing := { g with others := g.others.push row }

/-- Groups in the making, and for each hash the places of the groups whose first row has it. -/
structure Builder where
  places : Std.HashMap UInt64 (List Nat)
  groups : Array Growing

def Builder.empty : Builder := ⟨∅, #[]⟩

/-- The place of the group that a row belongs to, among the places of its hash. -/
def Builder.find? (b : Builder) (sameRow : Nat → Nat → Bool) (row : Nat) (places : List Nat) :
    Option Nat :=
  places.find? fun place => match b.groups[place]? with
    | some g => sameRow g.first row
    | none => false

/-- The groups with a row put into its group, or into a new one behind the others. -/
def Builder.add (rowHash : Nat → UInt64) (sameRow : Nat → Nat → Bool) (b : Builder) (row : Nat) :
    Builder :=
  let hash := rowHash row
  let places := b.places.getD hash []
  match b.find? sameRow row places with
  | some place => { b with groups := b.groups.modify place (·.push row) }
  | none =>
    ⟨b.places.insert hash (places ++ [b.groups.size]), b.groups.push ⟨row, #[]⟩⟩

/-- The groups of the first rows, by a hash and an equality of rows. -/
def groupRows (rowHash : Nat → UInt64) (sameRow : Nat → Nat → Bool) (rowCount : Nat) :
    List (List Nat) :=
  let b := (List.range rowCount).foldl (Builder.add rowHash sameRow) .empty
  b.groups.toList.map Growing.rows

/-- The index of rows by their keys, using a hash of rows. There have to be keys, all as long as the
number of rows. -/
def buildWith (rowHash : Nat → UInt64) (keys : List Column) (rowCount : Nat) :
    Except Fault GroupIndex :=
  if keys.isEmpty then .error .noKeys
  else match keys.find? fun key => key.length ≠ rowCount with
    | some key => .error (.unevenKey key.name key.length rowCount)
    | none => .ok ⟨groupRows rowHash (Column.sameRow keys) rowCount, rowCount⟩

def build (keys : List Column) (rowCount : Nat) : Except Fault GroupIndex :=
  buildWith (Column.rowHash keys) keys rowCount

def length (index : GroupIndex) : Nat := index.groups.length

def firstRows (index : GroupIndex) : List Nat := index.groups.filterMap List.head?

def sizes (index : GroupIndex) : List Nat := index.groups.map List.length

/-- Adds the rows of a group to those seen, each of which has to be a row and new. -/
def checkRows (rowCount : Nat) (seen : List Nat) : List Nat → Except Fault (List Nat)
  | [] => .ok seen
  | row :: rows =>
    if rowCount ≤ row then .error (.strayRow row rowCount)
    else if row ∈ seen then .error (.repeatedRow row)
    else checkRows rowCount (row :: seen) rows

/-- Adds the rows of all groups to those seen; no group may be empty. -/
def checkGroups (rowCount : Nat) (seen : List Nat) : List (List Nat) → Except Fault (List Nat)
  | [] => .ok seen
  | [] :: _ => .error .emptyGroup
  | (row :: rows) :: groups => do
    checkGroups rowCount (← checkRows rowCount seen (row :: rows)) groups

/-- Checks that the groups are a partition of the first rows. -/
def verifyPartition (index : GroupIndex) (rowCount : Nat) : Except Fault Unit := do
  let seen ← checkGroups rowCount [] index.groups
  if seen.length = rowCount then .ok () else .error (.uncoveredRows seen.length rowCount)

end GroupIndex
end TimeTable
