import TimeTable.CommandLine.Invocation
import TimeTable.CommandLine.Report
import TimeTable.Csv.Reader
import TimeTable.Csv.Writer
import TimeTable.Json.Table
import TimeTable.Plan.Run
import TimeTable.Table.Display
import TimeTable.Text.Utf8

namespace TimeTable

/-- Why a file cannot be read, with the cause that the system gives: it cannot be opened, or its
content cannot be had. -/
inductive ReadError where
  | unopened (cause : String)
  | unread (cause : String)
deriving DecidableEq

def ReadError.cause : ReadError → String
  | unopened cause => cause
  | unread cause => cause

/-- Why a table cannot be read from a file. -/
def ReadError.toFault : ReadError → Fault
  | unopened cause => .io cause
  | unread cause => .unreadable cause

/-- What the program asks of the system: environment variables, and reading and writing files, which
may fail. -/
structure Host (m : Type → Type) where
  env : Environment
  read : String → m (Except ReadError (List UInt8))
  write : String → String → m (Except String Unit)

/-- How a run ends. -/
inductive Outcome where
  | done (output : String)
  | failed (report : Report)
  | crashed (message : String)
  | dismissed (reason : Dismissal)
deriving DecidableEq

namespace Outcome

def versionText : String := "chronoframe 0.1.0\n"

def usageText : String :=
  "Usage: chronoframe [--config FILE] [--format table|json|csv] COMMAND\n\n" ++
  "Commands:\n" ++
  "  group-by FILE --by KEYS (--agg FN:COLUMN[:ALIAS] | --head N | --tail N)\n" ++
  "           [--filter COLUMN<op>VALUE] [--sort]\n" ++
  "  extract FILE --column COLUMN --field FIELD [--time-zone ZONE]\n" ++
  "  config [--output FILE]\n"

def ofFault (fault : Fault) : Outcome :=
  if fault.kind = .crash then .crashed fault.detail else .failed (.ofFault fault)

def code : Outcome → UInt8
  | done _ => 0
  | failed _ => 1
  | crashed _ => 101
  | dismissed .misuse => 2
  | dismissed _ => 0

/-- What a run writes to the standard output. -/
def output : Outcome → String
  | done output => output
  | dismissed .version => versionText
  | _ => ""

/-- What a run writes to the standard error, without the place in the program that a crash names. -/
def notes : Outcome → String
  | failed report => report.text
  | crashed message => message ++ "\n"
  | dismissed .version => ""
  | dismissed _ => usageText
  | done _ => ""

end Outcome

def TableFormat.render (t : Table) : TableFormat → String
  | table => t.display
  | json => .ofList (t.toJson.pretty 0 ++ ['\n'])
  | csv => .ofList (Csv.write t)

def GroupRequest.action : GroupRequest → Except SpecError GroupAction
  | aggregations [] => .error .noAggregation
  | aggregations specs => (specs.mapM fun spec => Spec.aggregation spec.toList).map .agg
  | head n => .ok (.slice .head n)
  | tail n => .ok (.slice .tail n)

def groupByPlan (t : Table) (keys filters : List String) (request : GroupRequest)
    (sorted : Bool) : Except SpecError Plan := do
  let predicates ← filters.mapM fun spec => Spec.filter spec.toList
  let action ← request.action
  let keys := keys.flatMap fun spec => Spec.keys spec.toList
  let plan := .groupBy (predicates.foldl .filter (.scan t)) (keys.map .col) action
  .ok (if sorted then .sort plan keys false else plan)

/-- The plan of an extraction: the column, and the field of it as read in the zone. -/
def extractPlan (t : Table) (column : String) (field : TemporalField) (name : String)
    (zone : Option String) : Plan :=
  let source := match zone with
    | some zone => .temporal (.col column) (.withTimeZone zone)
    | none => .col column
  .select (.scan t) [.col column, .named (.temporal source (.field field)) name]

section

variable {m : Type → Type} [Monad m]

/-- A result with its error told in another way. -/
def orThrow {ε δ α : Type} (told : ε → δ) (result : Except ε α) : ExceptT δ m α :=
  match result with
  | .ok v => pure v
  | .error e => throw (told e)

def Host.readText (host : Host m) (path : String) : m (Except String String) := do
  match ← host.read path with
  | .error e => pure (.error e.cause)
  | .ok bytes => match Utf8.decode bytes with
    | .ok s => pure (.ok (.ofList s))
    | .error _ => pure (.error "stream did not contain valid UTF-8")

/-- The variable of the folder with the settings of all programs. -/
def Environment.folderVariable : String := "XDG_CONFIG_HOME"

/-- The variable of the folder of the user. -/
def Environment.homeVariable : String := "HOME"

/-- The variables that the program looks at. -/
def Environment.variables : List String :=
  [Config.parallelVariable, Config.minGroupsVariable, Config.minRowsVariable, Config.levelVariable,
    Config.formatVariable, folderVariable, homeVariable]

/-- Where the settings of the user are: in the folder for settings, if that is an absolute path, or else
below the folder of the user. -/
def Environment.userConfig? (env : Environment) : Option String :=
  let folder := ((env folderVariable).filter (·.startsWith "/")).or
    (((env homeVariable).filter (· != "")).map (· ++ "/.config"))
  folder.map (· ++ "/chronoframe/config.toml")

/-- The settings: those of a given file, or of the user or the folder that the program runs in. -/
def Host.loadConfig (host : Host m) : Option String → ExceptT Report m Config
  | some path => do
    let file ← host.readText path
    orThrow (Report.ofLoadError path) (Config.loadWithEnvironment file host.env)
  | none => do
    let files ← (host.env.userConfig?.toList ++ ["./chronoframe.toml"]).mapM fun path => do
      let file ← host.readText path
      pure file.toOption
    pure (Config.loadDefault files host.env)

def Host.readTable (host : Host m) (path : String) : ExceptT Report m Table := do
  let reader : Csv.Reader := {}
  let table ← match ← host.read path with
    | .error e => pure (.error e.toFault)
    | .ok bytes => pure (reader.read bytes)
  orThrow (fun fault => (Report.ofFault fault).within ("reading " ++ path)) table

def Host.runCommand (host : Host m) (format : TableFormat) : Command → ExceptT Outcome m String
  | .groupBy path keys filters request sorted => do
    let t ← (host.readTable path).adapt .failed
    let plan ← orThrow (.failed ∘ Report.ofSpecError) (groupByPlan t keys filters request sorted)
    let t ← orThrow Outcome.ofFault plan.run
    pure (format.render t)
  | .extract path column name zone => do
    let field ← orThrow (.failed ∘ Report.ofSpecError) (Spec.field name)
    let t ← (host.readTable path).adapt .failed
    let t ← orThrow Outcome.ofFault (extractPlan t column field name zone).run
    pure (format.render t)
  | .config none => pure Config.defaultText
  | .config (some path) => do
    match ← host.write path Config.defaultText with
    | .ok () => pure ("Config written to " ++ Text.inQuotes path ++ "\n")
    | .error cause => throw (.failed ((Report.mk cause []).within ("writing " ++ path)))

/-- The run of the program with its arguments. The settings are read first, because a file that gives
none has to be reported; they change no result. -/
def Host.run (host : Host m) (args : List String) : m Outcome := do
  match Invocation.ofArgs args with
  | .error reason => pure (.dismissed reason)
  | .ok invocation =>
    let result ← ExceptT.run do
      let _ ← (host.loadConfig invocation.config).adapt .failed
      host.runCommand invocation.format invocation.command
    match result with
    | .ok output => pure (.done output)
    | .error ending => pure ending

end

end TimeTable
