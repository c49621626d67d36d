import TimeTable.Config.Basic
import TimeTable.Toml.Parser

namespace TimeTable.Config

def boolean? : Toml → Option Bool
  | .boolean v => some v
  | _ => none

def count? : Toml → Option Nat
  | .integer n => if 0 ≤ n then some n.toNat else none
  | _ => none

def text? : Toml → Option String
  | .string s => some s
  | _ => none

/-- The values of a group of settings in their fixed order, those that are there: by name from a table,
or by place from an array. A date or time counts as a table without any of them. -/
def values? (names : List String) : Toml → Option (List (Option Toml))
  | .table _ entries => some (names.map (Toml.get? entries))
  | .array items => some ((List.range names.length).map (items[·]?))
  | .tables items => some ((List.range names.length).map fun n =>
      (items[n]?).map (Toml.table .header))
  | .datetime => some (names.map fun _ => none)
  | _ => none

def setting? {α : Type} (read : Toml → Option α) (default : α) : Option (Option Toml) → Option α
  | some (some v) => read v
  | _ => some default

def engine? (v : Toml) : Option EngineConfig := do
  let values ← values? ["parallel", "parallel_min_groups", "parallel_min_rows"] v
  let base : EngineConfig := {}
  some
    { parallel := ← setting? boolean? base.parallel values[0]?
      minGroups := ← setting? count? base.minGroups values[1]?
      minRows := ← setting? count? base.minRows values[2]? }

def logging? (v : Toml) : Option LoggingConfig := do
  let values ← values? ["level", "format"] v
  let base : LoggingConfig := {}
  some
    { level := ← setting? text? base.level values[0]?
      format := ← setting? text? base.format values[1]? }

/-- The settings that the text of a file gives. -/
def parse? (text : String) : Option Config := do
  let entries ← Toml.parse? text.toList
  some
    { engine := ← setting? engine? {} (some (Toml.get? entries "engine"))
      logging := ← setting? logging? {} (some (Toml.get? entries "logging")) }

/-- Why a file gives no settings: it cannot be read, for the cause that the system gives, or its text
makes no sense. -/
inductive LoadError where
  | unreadable (cause : String)
  | unparsable
deriving DecidableEq

/-- The settings of a file, given its text or why that cannot be had. -/
def load (file : Except String String) : Except LoadError Config :=
  match file with
  | .error cause => .error (.unreadable cause)
  | .ok text => match parse? text with
    | some config => .ok config
    | none => .error .unparsable

/-- The settings of a file with those of the environment. -/
def loadWithEnvironment (file : Except String String) (env : Environment) :
    Except LoadError Config :=
  (load file).map (·.override env)

/-- The settings of the first file that exists and makes sense, or the default ones, with those of the
environment. -/
def loadDefault (files : List (Option String)) (env : Environment) : Config :=
  ((files.findSome? fun (file : Option String) => file.bind parse?).getD {}).override env

end TimeTable.Config
