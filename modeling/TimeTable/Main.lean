import TimeTable.CommandLine.Run

namespace TimeTable

/-- The number and the text of an error of the system. -/
def osError : IO.Error → UInt32 × String
  | .alreadyExists _ code details | .interrupted _ code details
  | .noFileOrDirectory _ code details | .invalidArgument _ code details
  | .permissionDenied _ code details | .resourceExhausted _ code details
  | .inappropriateType _ code details | .noSuchThing _ code details => (code, details)
  | .otherError code details | .resourceBusy code details | .resourceVanished code details
  | .unsupportedOperation code details | .hardwareFault code details
  | .unsatisfiedConstraints code details | .illegalOperation code details
  | .protocolError code details | .timeExpired code details => (code, details)
  | .unexpectedEof => (0, "unexpected end of file")
  | .userError message => (0, message)

/-- The cause that the system gives for an error. -/
def osCause (error : IO.Error) : String :=
  let (code, details) := osError error
  s!"{details} (os error {code})"

/-- The system that the program runs on, given the values of its variables. -/
def systemHost (values : List (String × Option String)) : Host IO where
  env name := (values.find? (·.1 == name)).bind Prod.snd
  read path := do
    match ← (IO.FS.Handle.mk path .read).toBaseIO with
    | .error e => pure (.error (.unopened (osCause e)))
    | .ok handle => match ← handle.readBinToEnd.toBaseIO with
      | .error e => pure (.error (.unread (osCause e)))
      | .ok bytes => pure (.ok bytes.toList)
  write path text := do
    match ← (IO.FS.writeFile path text).toBaseIO with
    | .error e => pure (.error (osCause e))
    | .ok () => pure (.ok ())

end TimeTable

def main (args : List String) : IO UInt32 := do
  let values ← TimeTable.Environment.variables.mapM fun name => do
    let value ← IO.getEnv name
    pure (name, value)
  let outcome ← (TimeTable.systemHost values).run args
  (← IO.getStdout).putStr outcome.output
  (← IO.getStderr).putStr outcome.notes
  pure outcome.code.toUInt32
