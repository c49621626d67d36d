import TimeTable.CommandLine.Arguments
import TimeTable.Text.Numeral
import TimeTable.Word

/-!
# Invocations

What the arguments of the program ask for: a command with its arguments, in which form tables are
written and where the settings are read. The options for settings and form may stand before and behind
the name of the command; behind it they win.
-/

namespace TimeTable

/-- In which form a table is written. -/
inductive TableFormat where
  | table
  | json
  | csv
deriving DecidableEq, Inhabited

def TableFormat.ofName? : String → Option TableFormat
  | "table" => some table
  | "json" => some json
  | "csv" => some csv
  | _ => none

/-- What is asked of the groups of a table: aggregations, as they are written, or the first or last
rows. -/
inductive GroupRequest where
  | aggregations (specs : List String)
  | head (n : Int64)
  | tail (n : Int64)
deriving DecidableEq

/-- A command. -/
inductive Command where
  /-- Group the rows of a file. -/
  | groupBy (path : String) (keys filters : List String) (request : GroupRequest) (sorted : Bool)
  /-- Take a field of the instants of a column of a file. -/
  | extract (path column field : String) (zone : Option String)
  /-- Write the default settings. -/
  | config (output : Option String)
deriving DecidableEq

/-- What the arguments of the program ask for. -/
structure Invocation where
  command : Command
  config : Option String
  format : TableFormat
deriving DecidableEq

namespace Invocation

def word? (s : String) : Option Int64 := (Numeral.readInt? s.toList).bind Word.int64?

def sharedOptions : List OptionSpec :=
  [{ name := "config", letter := some 'c', use := .single (· != "") },
    { name := "format", letter := some 'f', use := .single fun s => (TableFormat.ofName? s).isSome },
    { name := "help", letter := some 'h', use := .dismissal .help }]

def mainLevel : Level where
  options := sharedOptions ++
    [{ name := "version", letter := some 'V', use := .dismissal .version }]
  commands := ["group-by", "extract", "config", "help"]

def groupByLevel : Level where
  options := sharedOptions ++
    [{ name := "by", letter := some 'b', use := .repeated },
      { name := "agg", letter := some 'a', use := .repeated },
      { name := "filter", use := .repeated },
      { name := "head", use := .single fun s => (word? s).isSome },
      { name := "tail", use := .single fun s => (word? s).isSome },
      { name := "sort", use := .flag }]
  maxOperands := 1

def extractLevel : Level where
  options := sharedOptions ++
    [{ name := "column", use := .single fun _ => true },
      { name := "field", use := .single fun _ => true },
      { name := "time-zone", use := .single fun _ => true }]
  maxOperands := 1

def configLevel : Level where
  options := sharedOptions ++ [{ name := "output", letter := some 'o', use := .single (· != "") }]

/-- What is asked of the groups; only one thing may be. -/
def request? (given : Arguments) : Option GroupRequest :=
  match given.values "agg", (given.value? "head").bind word?, (given.value? "tail").bind word? with
  | specs, none, none => some (.aggregations specs)
  | [], some n, none => some (.head n)
  | [], none, some n => some (.tail n)
  | _, _, _ => none

def groupBy? (given : Arguments) : Option Command := do
  let path ← given.operands.head?
  let request ← request? given
  if given.has "by" then
    some (.groupBy path (given.values "by") (given.values "filter") request (given.has "sort"))
  else none

/-- An extraction; it needs a file, a column and a field. -/
def extract? (given : Arguments) : Option Command := do
  let path ← given.operands.head?
  some (.extract path (← given.value? "column") (← given.value? "field")
    (given.value? "time-zone"))

def config? (given : Arguments) : Option Command := some (.config (given.value? "output"))

def ofLevel (level : Level) (command? : Arguments → Option Command) (shared : Arguments)
    (args : List String) : Except Dismissal Invocation := do
  let (given, _) ← level.read {} args
  match command? given with
  | none => .error .misuse
  | some command =>
    let value? (name : String) := (given.value? name).or (shared.value? name)
    .ok
      { command
        config := value? "config"
        format := ((value? "format").bind TableFormat.ofName?).getD .table }

/-- A request for help, perhaps on a command. -/
def help (args : List String) : Dismissal :=
  if args = [] ∨ ∃ c ∈ mainLevel.commands, args = [c] then .help else .misuse

def ofArgs (args : List String) : Except Dismissal Invocation := do
  match ← mainLevel.read {} args with
  | (shared, some ("group-by", args)) => ofLevel groupByLevel groupBy? shared args
  | (shared, some ("extract", args)) => ofLevel extractLevel extract? shared args
  | (shared, some ("config", args)) => ofLevel configLevel config? shared args
  | (_, some (_, args)) => .error (help args)
  | (_, none) => .error .misuse

end Invocation
end TimeTable
