import TimeTable.Fault
import TimeTable.Zone.Known

namespace TimeTable

def TimeUnit.named (name : String) : Except Fault TimeUnit :=
  match TimeUnit.ofName? name with
  | some unit => .ok unit
  | none => .error (.unknownUnit name)

/-- The unit of a count since 1970 with a short name. -/
def EpochUnit.named (name : String) : Except Fault EpochUnit :=
  match EpochUnit.ofName? name with
  | some unit => .ok unit
  | none => .error (.unknownEpochUnit name)

def Zone.named (name : String) : Except Fault Zone :=
  match Zone.ofName? name with
  | some zone => .ok zone
  | none => .error (.unknownZone name)

namespace DataType

/-- What stands in the brackets behind a word, if the text has that form. -/
def bracket? (word : String) (s : List Char) : Option (List Char) :=
  let start := word.toList ++ ['[']
  if start.isPrefixOf s ∧ s.getLast? = some ']' then some (s.drop start.length).dropLast else none

/-- The part of a text before the first comma and a blank, and the part behind them. -/
def splitComma : List Char → List Char × Option (List Char)
  | [] => ([], none)
  | ',' :: ' ' :: s => ([], some s)
  | c :: s => (c :: (splitComma s).1, (splitComma s).2)

/-- The type of instants with a unit and a zone given by name. -/
def readDatetime (s : List Char) : Except Fault DataType := do
  let (unit, zone) := splitComma s
  let unit ← TimeUnit.named (.ofList unit)
  match zone with
  | some zone => .ok (.datetime unit (some (← Zone.named (.ofList zone))))
  | none => .ok (.datetime unit none)

/-- The type that a text stands for, if it has the form of one. The depth bounds how far lists are
nested. -/
def readNested? : Nat → List Char → Option (Except Fault DataType)
  | 0, _ => none
  | depth + 1, s =>
    match String.ofList s with
    | "null" => some (.ok .null)
    | "bool" => some (.ok .boolean)
    | "i64" => some (.ok .int64)
    | "f64" => some (.ok .float64)
    | "str" => some (.ok .utf8)
    | "date" => some (.ok .date)
    | _ =>
      match bracket? "datetime" s, bracket? "duration" s, bracket? "list" s with
      | some inside, _, _ => some (readDatetime inside)
      | none, some unit, _ => some ((TimeUnit.named (.ofList unit)).map .duration)
      | none, none, some inner => (readNested? depth inner).map fun dtype => dtype.map .list
      | none, none, none => none

/-- The type that a text stands for, if it has the form of one. -/
def read? (text : String) : Option (Except Fault DataType) :=
  readNested? text.length text.toList

end DataType
end TimeTable
