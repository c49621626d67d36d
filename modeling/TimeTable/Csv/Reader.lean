import TimeTable.Binary64.Text
import TimeTable.Csv.Record
import TimeTable.Pattern.Read
import TimeTable.Table.Basic
import TimeTable.Text.Blank

namespace TimeTable.Csv

/-- How records are read. -/
structure Reader where
  separator : UInt8 := 0x2C
  hasHeader : Bool := true
  unit : TimeUnit := .microseconds
  /-- A pattern for instants that is tried before the others. -/
  pattern : Option String := none

/-- The patterns of dates. -/
def datePatterns : List String := ["%Y-%m-%d", "%Y/%m/%d", "%m/%d/%Y", "%d.%m.%Y"]

def datetimePatterns : List String :=
  ["%Y-%m-%d %H:%M:%S%.f", "%Y-%m-%dT%H:%M:%S%.f", "%Y-%m-%d %H:%M", "%Y-%m-%dT%H:%M"]

def readBoolean? (s : List Char) : Option Bool :=
  match String.ofList (s.map Text.lowerAscii) with
  | "true" => some true
  | "false" => some false
  | _ => none

def readInt? (s : List Char) : Option Int64 := (Numeral.readInt? s).bind Word.int64?

/-- A date by the first pattern that it matches. -/
def readDate? (s : List Char) : Option Int32 :=
  (datePatterns.findSome? fun p => Pattern.readDay? p.toList s).map Int32.ofInt

/-- A date and time by the first pattern that it matches, or in the form of RFC 3339 as it reads in
UTC. -/
def readDateTime? (pattern : Option String) (s : List Char) : Option DateTime :=
  ((pattern.toList ++ datetimePatterns).findSome? fun p => Pattern.readDateTime? p.toList s).or
    (Pattern.readRfc3339? s)

def Reader.readTicks? (reader : Reader) (s : List Char) : Option Int64 :=
  (readDateTime? reader.pattern s).bind reader.unit.ofDateTime?

/-- The cells of a column if every one that is not empty can be read. -/
def readCells? {α : Type} (read : List Char → Option α) (cells : List (List Char)) :
    Option (List (Option α)) :=
  cells.mapM fun s => if s.isEmpty then some none else (read s).map some

/-- Cells as texts, the empty ones missing. -/
def textCells (cells : List (List Char)) : List (Option String) :=
  cells.map fun s => if s.isEmpty then none else some (.ofList s)

/-- The column of trimmed cells, with the first type whose form they have. -/
def Reader.column (reader : Reader) (name : String) (cells : List (List Char)) : Column :=
  if cells.all List.isEmpty then Column.nulls name cells.length
  else match readCells? readBoolean? cells with
  | some vs => ⟨name, .boolean, vs⟩
  | none => match readCells? readInt? cells with
  | some vs => ⟨name, .int64, vs⟩
  | none => match readCells? Binary64.read? cells with
  | some vs => ⟨name, .float64, vs⟩
  | none => match readCells? readDate? cells with
  | some vs => ⟨name, .date, vs⟩
  | none => match readCells? reader.readTicks? cells with
  | some vs => ⟨name, .datetime reader.unit none, vs⟩
  | none => ⟨name, .utf8, textCells cells⟩

/-- The names of columns without a header, counted from one. -/
def numberedNames (n : Nat) : List (List Char) :=
  (List.range n).map fun i => "column_".toList ++ Numeral.ofNat (i + 1)

/-- The names of the columns and the records below them. -/
def Reader.split (reader : Reader) (rows : List (List (List Char))) :
    List (List Char) × List (List (List Char)) :=
  match rows with
  | [] => ([], [])
  | row :: rest =>
    if reader.hasHeader then (row.map Text.trim, rest) else (numberedNames row.length, row :: rest)

def columnCells (width : Nat) (rows : List (List (List Char))) : List (List (List Char)) :=
  (List.range width).map fun i => rows.map fun row => Text.trim (row[i]?.getD [])

/-- The table of separated values. All records have to have as many fields as the first one. -/
def Reader.read (reader : Reader) (bytes : List UInt8) : Except Fault Table := do
  let records := records reader.separator bytes
  let width := (records.head?.map fun r => r.fields.length).getD 0
  let rows ← records.mapM (Record.texts width)
  let (names, rows) := reader.split rows
  Table.ofColumns (List.zipWith (fun name cells => reader.column (.ofList name) cells) names
    (columnCells width rows))

end TimeTable.Csv
