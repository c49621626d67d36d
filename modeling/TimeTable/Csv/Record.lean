import TimeTable.Fault
import TimeTable.Text.Utf8

/-!
# Records of separated values

Bytes cut into records of fields. A record ends at a line feed, a carriage return or both, and empty
lines are passed over. A field that begins with a quote runs to the next single quote and may hold
anything; a quote inside it is written twice. What stands behind the closing quote is added to the
field, and a quote in the middle of a field is one like any other byte.
-/

namespace TimeTable.Csv

/-- A record: where its reading began, and the bytes of its fields. -/
structure Record where
  place : RecordPlace
  fields : List (List UInt8)
deriving Inhabited

def quote : UInt8 := 0x22

def lineFeed : UInt8 := 0x0A

def carriageReturn : UInt8 := 0x0D

def isLineEnd (b : UInt8) : Bool := b == lineFeed || b == carriageReturn

/-- Where in a record the scanner is. -/
inductive Mode where
  /-- Between records. -/
  | between
  /-- Behind a carriage return that ended a record, whose line feed may follow. -/
  | behindReturn
  /-- Behind a separator. -/
  | fieldStart
  /-- In a field without quotes. -/
  | plain
  /-- In a quoted field. -/
  | quoted
  /-- Behind a quote in a quoted field. -/
  | quoteSeen
deriving DecidableEq

/-- The state of the scanner. Bytes, fields and records read so far are kept in reverse. -/
structure Scanner where
  mode : Mode
  field : List UInt8
  fields : List (List UInt8)
  records : List Record
  /-- Where the reading of the current record began. -/
  start : RecordPlace
  /-- The number of bytes read. -/
  byte : Nat
  /-- The number of the current line. -/
  line : Nat

namespace Scanner

/-- The scanner before the first record, behind `byte` bytes that are no part of it. -/
def initial (byte : Nat) : Scanner := ⟨.between, [], [], [], ⟨0, 1, 0⟩, byte, 1⟩

def push (s : Scanner) (b : UInt8) (mode : Mode) : Scanner :=
  { s with field := b :: s.field, mode }

def endField (s : Scanner) : Scanner :=
  { s with field := [], fields := s.field.reverse :: s.fields, mode := .fieldStart }

def endRecord (s : Scanner) (mode : Mode) : Scanner :=
  let s := s.endField
  { s with
    fields := []
    records := ⟨s.start, s.fields.reverse⟩ :: s.records
    start := ⟨s.start.record + 1, s.line, s.byte⟩
    mode }

/-- Ends the record at a byte that ends records. -/
def endLine (s : Scanner) (b : UInt8) : Scanner :=
  s.endRecord (if b == carriageReturn then .behindReturn else .between)

/-- A byte that is not quoted and begins no quoted field. -/
def unquoted (s : Scanner) (separator b : UInt8) : Scanner :=
  if b == separator then s.endField
  else if isLineEnd b then s.endLine b
  else s.push b .plain

def atStart (s : Scanner) (separator b : UInt8) : Scanner :=
  if b == quote then { s with mode := .quoted } else s.unquoted separator b

def atRecord (s : Scanner) (separator b : UInt8) : Scanner :=
  if isLineEnd b then { s with mode := .between } else s.atStart separator b

/-- Counts a byte. -/
def count (s : Scanner) (b : UInt8) : Scanner :=
  { s with byte := s.byte + 1, line := if b == lineFeed then s.line + 1 else s.line }

/-- One byte. -/
def step (separator : UInt8) (s : Scanner) (b : UInt8) : Scanner :=
  let s := s.count b
  match s.mode with
  | .between => s.atRecord separator b
  | .behindReturn => if b == lineFeed then { s with mode := .between } else s.atRecord separator b
  | .fieldStart => s.atStart separator b
  | .plain => s.unquoted separator b
  | .quoted => if b == quote then { s with mode := .quoteSeen } else s.push b .quoted
  | .quoteSeen => if b == quote then s.push b .quoted else s.unquoted separator b

/-- The records when there are no more bytes. -/
def finish (s : Scanner) : List Record :=
  let s := match s.mode with
    | .between | .behindReturn => s
    | .fieldStart | .plain | .quoted | .quoteSeen => s.endRecord .between
  s.records.reverse

end Scanner

/-- The bytes behind a byte order mark, if there is one, and their place. -/
def dropMark : List UInt8 → Nat × List UInt8
  | 0xEF :: 0xBB :: 0xBF :: s => (3, s)
  | s => (0, s)

def records (separator : UInt8) (bytes : List UInt8) : List Record :=
  let (byte, bytes) := dropMark bytes
  (bytes.foldl (Scanner.step separator) (.initial byte)).finish

/-- The texts of the fields of a record, the first of which has the number `n`. -/
def Record.textsFrom (place : RecordPlace) (n : Nat) :
    List (List UInt8) → Except Fault (List (List Char))
  | [] => .ok []
  | bytes :: fields => match Utf8.decode bytes with
    | .ok text => do .ok (text :: (← textsFrom place (n + 1) fields))
    | .error index => .error (.invalidText place n index)

/-- The texts of the fields of a record, of which there have to be `expected`. -/
def Record.texts (expected : Nat) (r : Record) : Except Fault (List (List Char)) :=
  if r.fields.length = expected then textsFrom r.place 0 r.fields
  else .error (.unevenRecord r.place r.fields.length expected)

end TimeTable.Csv
