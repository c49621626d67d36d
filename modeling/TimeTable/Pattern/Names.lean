namespace TimeTable.Pattern

def monthNames : List String :=
  ["January", "February", "March", "April", "May", "June", "July", "August", "September", "October",
    "November", "December"]

/-- The names of the days of the week, from Monday. -/
def weekdayNames : List String :=
  ["Monday", "Tuesday", "Wednesday", "Thursday", "Friday", "Saturday", "Sunday"]

/-- The name at a place of a list, in full or its first three letters. -/
def nameAt (names : List String) (full : Bool) (n : Nat) : List Char :=
  let name := (names.getD n "").toList
  if full then name else name.take 3

end TimeTable.Pattern
