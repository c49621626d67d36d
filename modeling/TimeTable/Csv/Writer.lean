import TimeTable.Table.Basic

namespace TimeTable.Csv

def needsQuotes (s : List Char) : Bool :=
  s.any fun c => c == ',' || c == '"' || c == '\n' || c == '\r'

/-- A text between quotes, with each quote in it written twice. -/
def quoteField (s : List Char) : List Char :=
  '"' :: (s.flatMap fun c => if c = '"' then ['"', '"'] else [c]) ++ ['"']

def writeField (s : List Char) : List Char := if needsQuotes s then quoteField s else s

/-- A line of fields. One empty field, or none, is written as a pair of quotes, since an empty line is
no record. -/
def writeRecord (fields : List (List Char)) : List Char :=
  (if fields.all List.isEmpty && fields.length ≤ 1 then ['"', '"']
    else List.intercalate [','] (fields.map writeField)) ++ ['\n']

def fieldText : Scalar → List Char
  | .null => []
  | v => v.text

def write (t : Table) : List Char :=
  writeRecord (t.names.map String.toList) ++
    (t.rows.map fun row => writeRecord (row.map fieldText)).flatten

end TimeTable.Csv
