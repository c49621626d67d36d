import TimeTable.CommandLine.Spec
import TimeTable.Config.Read
import TimeTable.Fault
import TimeTable.Text.Quoted

namespace TimeTable

/-- A failure as it is told: a message and its causes, the nearest one first. -/
structure Report where
  message : String
  causes : List String := []
deriving DecidableEq

namespace Report

/-- A text with the lines behind the first one indented. -/
def hang (width : Nat) (s : String) : String :=
  .ofList (s.toList.flatMap fun c =>
    if c = '\n' then '\n' :: List.replicate width ' ' else [c])

def causesText : List String → String
  | [] => ""
  | [cause] => "\n\nCaused by:\n    " ++ hang 4 cause
  | causes => "\n\nCaused by:" ++ String.join (causes.zipIdx.map fun (cause, n) =>
      "\n" ++ .ofList (Numeral.padStart ' ' 5 (Numeral.ofNat n)) ++ ": " ++ hang 7 cause)

def text (report : Report) : String :=
  "Error: " ++ report.message ++ causesText report.causes ++ "\n"

/-- The same report as the cause of another failure. -/
def within (report : Report) (message : String) : Report :=
  { message, causes := report.message :: report.causes }

/-- The report of a fault; behind a fault of the system stands the cause that the system gives. -/
def ofFault (fault : Fault) : Report where
  message := fault.message
  causes := match fault with
    | .io cause => [cause]
    | _ => []

/-- The report of a specification that makes no sense. -/
def ofSpecError (error : SpecError) : Report where
  message := error.message

/-- The report of a file of settings that gives none. -/
def ofLoadError (path : String) : Config.LoadError → Report
  | .unreadable cause => { message := s!"Failed to read config file {Text.inQuotes path}: {cause}" }
  | .unparsable => { message := s!"Failed to parse config file {Text.inQuotes path}: invalid TOML" }

end Report
end TimeTable
