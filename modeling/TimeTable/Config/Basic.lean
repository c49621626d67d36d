import TimeTable.Text.Case
import TimeTable.Text.Numeral

/-!
# Settings

The settings of the program: from when on work is shared among threads, and what is logged and how.
None of them changes a result. Each is taken from the environment if it is set there and valid, else
from a file, else it has its default.
-/

namespace TimeTable

/-- From when on work is shared among threads. -/
structure EngineConfig where
  parallel : Bool := true
  minGroups : Nat := 64
  minRows : Nat := 100000
deriving DecidableEq, Inhabited

namespace EngineConfig

/-- Whether the hashing of so many rows is shared. -/
def parallelRows (config : EngineConfig) (rows : Nat) : Bool :=
  config.parallel && config.minRows ≤ rows

/-- Whether the reduction of so many groups is shared. -/
def parallelGroups (config : EngineConfig) (groups : Nat) : Bool :=
  config.parallel && config.minGroups ≤ groups

end EngineConfig

/-- What is logged and how. -/
structure LoggingConfig where
  level : String := "warn"
  format : String := "pretty"
deriving DecidableEq, Inhabited

/-- The settings of the program. -/
structure Config where
  engine : EngineConfig := {}
  logging : LoggingConfig := {}
deriving DecidableEq, Inhabited

/-- The values of environment variables. -/
abbrev Environment : Type := String → Option String

namespace Config

/-- A switch: one of a few words, in any case. -/
def readSwitch? (s : String) : Option Bool :=
  match Text.lowered s with
  | "1" | "true" | "yes" | "on" => some true
  | "0" | "false" | "no" | "off" => some false
  | _ => none

/-- A threshold: a number that fits a word of 64 bits. -/
def readThreshold? (s : String) : Option Nat :=
  (Numeral.readCount? s.toList).filter (· < 0x10000000000000000)

def parallelVariable : String := "CHRONOFRAME_PARALLEL"

def minGroupsVariable : String := "CHRONOFRAME_PARALLEL_MIN_GROUPS"

def minRowsVariable : String := "CHRONOFRAME_PARALLEL_MIN_ROWS"

def levelVariable : String := "CHRONOFRAME_LOG_LEVEL"

def formatVariable : String := "CHRONOFRAME_LOG_FORMAT"

/-- The settings with those of the environment that are set and valid. -/
def override (config : Config) (env : Environment) : Config where
  engine :=
    { parallel := ((env parallelVariable).bind readSwitch?).getD config.engine.parallel
      minGroups := ((env minGroupsVariable).bind readThreshold?).getD config.engine.minGroups
      minRows := ((env minRowsVariable).bind readThreshold?).getD config.engine.minRows }
  logging :=
    { level := (env levelVariable).getD config.logging.level
      format := (env formatVariable).getD config.logging.format }

/-- The default settings with those of the environment. -/
def ofEnvironment (env : Environment) : Config := ({} : Config).override env

/-- The text of a file with the default settings. -/
def defaultText : String :=
  "# chronoframe configuration\n" ++
  "#\n" ++
  "# Environment variables override these settings:\n" ++
  "# - CHRONOFRAME_PARALLEL\n" ++
  "# - CHRONOFRAME_PARALLEL_MIN_GROUPS\n" ++
  "# - CHRONOFRAME_PARALLEL_MIN_ROWS\n" ++
  "# - CHRONOFRAME_LOG_LEVEL\n" ++
  "# - CHRONOFRAME_LOG_FORMAT\n" ++
  "\n" ++
  "[engine]\n" ++
  "# Run key hashing and per-group reduction on the rayon thread pool\n" ++
  "parallel = true\n" ++
  "\n" ++
  "# Reduce groups in parallel once there are at least this many groups\n" ++
  "parallel_min_groups = 64\n" ++
  "\n" ++
  "# Hash grouping keys in parallel once there are at least this many rows\n" ++
  "parallel_min_rows = 100000\n" ++
  "\n" ++
  "[logging]\n" ++
  "# Log level: trace, debug, info, warn, error\n" ++
  "level = \"warn\"\n" ++
  "\n" ++
  "# Log format: pretty (for development) or json (for production)\n" ++
  "format = \"pretty\"\n"

end Config
end TimeTable
