/-!
# TOML documents

The values of a TOML document and the rules by which headers and dotted keys build its tables. A table
remembers how it came into being, because that decides what may still be added to it: a table that has
a header gets none again, one made by dotted keys is open to dotted keys only, and one written inline
is closed.
-/

namespace TimeTable

/-- How a table came into being. -/
inductive Toml.Origin where
  /-- By a header of its own. -/
  | header
  /-- As part of the path of a header. -/
  | path
  /-- As part of a dotted key. -/
  | dotted
  /-- As a value in braces. -/
  | braces
deriving DecidableEq

/-- A value of a TOML document. Of floating-point numbers and dates only the kind is kept. -/
inductive Toml where
  | string (s : String)
  | integer (n : Int)
  | float
  | boolean (v : Bool)
  | datetime
  | array (items : List Toml)
  | table (origin : Toml.Origin) (entries : List (String × Toml))
  /-- The tables of an array that has double headers. -/
  | tables (items : List (List (String × Toml)))
deriving Inhabited

namespace Toml

/-- The entries of a table in the order in which they were made. -/
abbrev Entries : Type := List (String × Toml)

def get? (entries : Entries) (key : String) : Option Toml :=
  (entries.find? (·.1 == key)).map Prod.snd

/-- The entries with the value of a key replaced, or added at the end. -/
def put (entries : Entries) (key : String) (v : Toml) : Entries :=
  match entries with
  | [] => [(key, v)]
  | e :: es => if e.1 = key then (key, v) :: es else e :: put es key v

def changeLast? (change : Entries → Option Entries) : List Entries → Option (List Entries)
  | [] => none
  | [t] => (change t).map ([·])
  | t :: ts => (changeLast? change ts).map (t :: ·)

/-- Changes the table at a path of headers. Tables on the way that do not exist are made, of an array
of tables the last one is meant, and a value is no table. -/
def changeAt? (change : Entries → Option Entries) : List String → Entries → Option Entries
  | [], entries => change entries
  | key :: path, entries => match get? entries key with
    | none => (changeAt? change path []).map fun t => put entries key (.table .path t)
    | some (.table .braces _) => none
    | some (.table origin t) =>
      (changeAt? change path t).map fun t => put entries key (.table origin t)
    | some (.tables ts) =>
      (changeLast? (changeAt? change path) ts).map fun ts => put entries key (.tables ts)
    | some _ => none

/-- Opens the table of a header: a new one, or one that so far was only part of a path. -/
def openTable? (key : String) (entries : Entries) : Option Entries :=
  match get? entries key with
  | none => some (put entries key (.table .header []))
  | some (.table .path t) => some (put entries key (.table .header t))
  | some _ => none

/-- Opens the next table of a double header. -/
def openElement? (key : String) (entries : Entries) : Option Entries :=
  match get? entries key with
  | none => some (put entries key (.tables [[]]))
  | some (.tables ts) => some (put entries key (.tables (ts ++ [[]])))
  | some _ => none

def add? (key : String) (v : Toml) (entries : Entries) : Option Entries :=
  match get? entries key with
  | none => some (put entries key v)
  | some _ => none

/-- Adds a new key at a dotted path. The table that it goes into has to have been made by dotted keys,
and no table on the way may have a header; `inside` says that the entries are those of such a table. -/
def addDotted? (key : String) (v : Toml) (inside : Bool) : List String → Entries → Option Entries
  | [], entries => if inside then add? key v entries else none
  | k :: path, entries => match get? entries k with
    | none => (addDotted? key v true path []).map fun t => put entries k (.table .dotted t)
    | some (.table .dotted t) =>
      (addDotted? key v true path t).map fun t => put entries k (.table .dotted t)
    | some (.table .path t) =>
      (addDotted? key v false path t).map fun t => put entries k (.table .path t)
    | some (.tables ts) =>
      (changeLast? (addDotted? key v false path) ts).map fun ts => put entries k (.tables ts)
    | some _ => none

end Toml
end TimeTable
