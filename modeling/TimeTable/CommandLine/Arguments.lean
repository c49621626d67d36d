/-!
# Arguments

Reading the arguments of a command line into options, operands and the name of a command. The options
that exist are data. An option is given as `--name value`, `--name=value`, `-n value`, `-nvalue` or
`-n=value`; an argument that begins with a dash is never taken for the value of the option in front of
it, and behind `--` everything is an operand.
-/

namespace TimeTable

/-- Why there is nothing to run: help or the version has been asked for, or the arguments make no
sense. -/
inductive Dismissal where
  | help
  | version
  | misuse
deriving DecidableEq

/-- What an option takes and how often it may be given. -/
inductive OptionUse where
  /-- No value, at most once. -/
  | flag
  /-- A value that has to be accepted, at most once. -/
  | single (accepts : String → Bool)
  /-- Any value, any number of times. -/
  | repeated
  /-- No value; nothing is run. -/
  | dismissal (reason : Dismissal)

/-- An option. -/
structure OptionSpec where
  name : String
  letter : Option Char := none
  use : OptionUse

def OptionUse.takesValue : OptionUse → Bool
  | flag => false
  | single _ => true
  | repeated => true
  | dismissal _ => false

/-- The options and operands that have been given, each in order. -/
structure Arguments where
  options : List (String × String) := []
  operands : List String := []
deriving DecidableEq

namespace Arguments

def values (given : Arguments) (name : String) : List String :=
  (given.options.filter (·.1 == name)).map Prod.snd

/-- The value of an option that may be given once. -/
def value? (given : Arguments) (name : String) : Option String := (given.values name).head?

def has (given : Arguments) (name : String) : Bool := given.options.any (·.1 == name)

/-- The arguments with an option added, if it is allowed. -/
def add (given : Arguments) (option : OptionSpec) (value : String) : Except Dismissal Arguments :=
  let more : Arguments := { given with options := given.options ++ [(option.name, value)] }
  match option.use with
  | .flag => if given.has option.name then .error .misuse else .ok more
  | .single accepts =>
    if accepts value && !given.has option.name then .ok more else .error .misuse
  | .repeated => .ok more
  | .dismissal reason => .error reason

end Arguments

/-- The form of an argument. -/
inductive Argument where
  /-- An option by its name, perhaps with a value. -/
  | long (name : String) (value : Option String)
  /-- An option by its letter, perhaps with a value. -/
  | short (letter : Char) (value : Option String)
  | separator
  | plain
deriving DecidableEq

def Argument.ofString (s : String) : Argument :=
  match s.toList with
  | ['-', '-'] => .separator
  | '-' :: '-' :: cs =>
    .long (.ofList (cs.takeWhile (· != '=')))
      (((cs.dropWhile (· != '=')).tail?).map String.ofList)
  | ['-', letter] => .short letter none
  | '-' :: letter :: '=' :: cs => .short letter (some (.ofList cs))
  | '-' :: letter :: cs => .short letter (some (.ofList cs))
  | _ => .plain

/-- What may be given at one level of a command line: options, at most so many operands, and commands,
which are levels of their own. -/
structure Level where
  options : List OptionSpec
  maxOperands : Nat := 0
  commands : List String := []

namespace Level

def byName? (level : Level) (name : String) : Option OptionSpec :=
  level.options.find? (·.name == name)

def byLetter? (level : Level) (letter : Char) : Option OptionSpec :=
  level.options.find? (·.letter == some letter)

/-- The arguments with operands added, if there is room for them; none may be empty. -/
def addOperands (level : Level) (given : Arguments) (operands : List String) :
    Except Dismissal Arguments :=
  if given.operands.length + operands.length ≤ level.maxOperands && !operands.contains "" then
    .ok { given with operands := given.operands ++ operands }
  else .error .misuse

/-- The option that an argument names, with the value that it brings along. -/
def option? (level : Level) : Argument → Option (OptionSpec × Option String)
  | .long name value => (level.byName? name).map fun option => (option, value)
  | .short letter value => (level.byLetter? letter).map fun option => (option, value)
  | _ => none

/-- The arguments up to the name of a command, which is given with what follows it. -/
def read (level : Level) (given : Arguments) :
    List String → Except Dismissal (Arguments × Option (String × List String))
  | [] => .ok (given, none)
  | a :: rest => match Argument.ofString a with
    | .separator => (level.addOperands given rest).map fun given => (given, none)
    | .plain =>
      if level.commands.contains a then .ok (given, some (a, rest))
      else do level.read (← level.addOperands given [a]) rest
    | argument => match level.option? argument with
      | none => .error .misuse
      | some (option, value) => match option.use.takesValue, value, rest with
        | false, none, rest => do level.read (← given.add option "") rest
        | false, some _, _ => match argument with
          | .short _ _ => do
            let _ ← given.add option ""
            .error .misuse
          | _ => .error .misuse
        | true, some value, rest => do level.read (← given.add option value) rest
        | true, none, value :: rest =>
          if Argument.ofString value = .plain then do level.read (← given.add option value) rest
          else .error .misuse
        | true, none, [] => .error .misuse

end Level
end TimeTable
