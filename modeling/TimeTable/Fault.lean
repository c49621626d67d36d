import TimeTable.Expr.Basic

/-!
# Faults

Why an operation on columns and tables has no result. A fault is a cause with what it is about; its
kind and its wording follow from the cause.
-/

namespace TimeTable

/-- The kinds of faults. A crash is no error that a caller gets: it ends the program. -/
inductive Fault.Kind where
  | typeMismatch
  | invalidArgument
  | invalidOperation
  | keyInconsistency
  | columnNotFound
  | shapeMismatch
  | duplicateColumn
  | csv
  | io
  | crash
deriving DecidableEq

/-- What kind of fault a message speaks of. -/
def Fault.Kind.label : Fault.Kind → String
  | typeMismatch => "Type mismatch"
  | invalidArgument => "Invalid argument"
  | invalidOperation => "Invalid operation"
  | keyInconsistency => "Key inconsistency"
  | columnNotFound => "Column not found"
  | shapeMismatch => "Shape mismatch"
  | duplicateColumn => "Duplicate column"
  | csv => "CSV error"
  | io => "IO error"
  | crash => "Panic"

/-- Where a record of separated values begins: its number, its line and its byte. -/
structure RecordPlace where
  record : Nat
  line : Nat
  byte : Nat
deriving DecidableEq, Inhabited

/-- Why an operation has no result. -/
inductive Fault where
  /-- A value does not belong to the type of its column. -/
  | strayValue (value : Scalar) (column : String) (dtype : DataType)
  /-- An operation does not exist for the type of the column. -/
  | unsupported (operation : String) (column : String) (dtype : DataType)
  /-- An operation needs a column with a time unit. -/
  | needsUnit (operation : String) (column : String) (dtype : DataType)
  /-- An operation needs a column of instants. -/
  | needsDatetime (operation : String) (column : String) (dtype : DataType)
  /-- A shift needs a column of dates or instants. -/
  | needsDate (column : String) (dtype : DataType)
  /-- Two columns have no common order. -/
  | incomparable (left : String) (leftType : DataType) (op : Comparison) (right : String)
    (rightType : DataType)
  /-- Arithmetic on something that is no number. -/
  | notNumeric (op : Arithmetic) (left right : DataType)
  /-- A filter whose predicate is not true or false. -/
  | notBoolean (predicate : Expr) (dtype : DataType)
  | unknownUnit (name : String)
  | unknownEpochUnit (name : String)
  | unknownZone (name : String)
  | invalidPattern (pattern : String)
  /-- A pattern asks for more than the column has. -/
  | inapplicablePattern (pattern : String) (dtype : DataType)
  | invalidShift (shift : String)
  /-- A shift by parts of a day on a column of dates. -/
  | clockShift (shift : String) (column : String)
  /-- A shift by less than a tick. -/
  | fineShift (shift : String) (unit : TimeUnit) (column : String)
  | noKeys
  | negativeLength (n : Int64)
  | rescaleOverflow (value : Int64) (unit target : TimeUnit)
  | epochOverflow (day : Int32)
  | partOverflow (part : DurationPart) (value : Int64) (unit : TimeUnit)
  /-- No instant has a reading of the local clock. -/
  | noInstant (reading : DateTime) (zone : Zone)
  /-- An instant has no tick count. -/
  | noTick (utc : DateTime) (unit : TimeUnit)
  | alreadyZoned (column : String) (zone : Zone)
  | sumOverflow (column : String)
  | arithmeticOverflow (left : Int64) (op : Arithmetic) (right : Int64)
  | emptyGroup
  | repeatedRow (row : Nat)
  | strayRow (row rowCount : Nat)
  | uncoveredRows (covered rowCount : Nat)
  | columnNotFound (name : String)
  | unevenColumn (column : String) (length height : Nat)
  | unevenKey (key : String) (length rowCount : Nat)
  | unevenPair (left : String) (leftLength : Nat) (right : String) (rightLength : Nat)
  /-- A reduction that gave more or fewer than one value. -/
  | manyValues (aggregation : Expr) (count : Nat)
  | duplicateColumn (name : String)
  | unevenRecord (place : RecordPlace) (fields expected : Nat)
  | invalidText (place : RecordPlace) (field index : Nat)
  /-- A file of separated values whose content cannot be had. -/
  | unreadable (cause : String)
  | io (cause : String)
  /-- The clock of a zone shows a date and time out of range. Nothing checks for it before it is read. -/
  | readingOutOfRange (utc : DateTime) (zone : Zone)

namespace Fault

def kind : Fault → Kind
  | strayValue .. | unsupported .. | needsUnit .. | needsDatetime .. | needsDate ..
  | incomparable .. | notNumeric .. | notBoolean .. => .typeMismatch
  | unknownUnit _ | unknownEpochUnit _ | unknownZone _ | invalidPattern _
  | inapplicablePattern .. | invalidShift _ | clockShift .. | fineShift .. | noKeys
  | negativeLength _ => .invalidArgument
  | rescaleOverflow .. | epochOverflow _ | partOverflow .. | noInstant .. | noTick ..
  | alreadyZoned .. | sumOverflow _ | arithmeticOverflow .. => .invalidOperation
  | emptyGroup | repeatedRow _ | strayRow .. | uncoveredRows .. => .keyInconsistency
  | columnNotFound _ => .columnNotFound
  | unevenColumn .. | unevenKey .. | unevenPair .. | manyValues .. => .shapeMismatch
  | duplicateColumn _ => .duplicateColumn
  | unevenRecord .. | invalidText .. | unreadable _ => .csv
  | io _ => .io
  | readingOutOfRange .. => .crash

def quoted (s : String) : String := "'" ++ s ++ "'"

def withLength (name : String) (n : Nat) : String := s!"{quoted name} (length {n})"

def withType (name : String) (dtype : DataType) : String :=
  quoted name ++ " (" ++ dtype.display ++ ")"

def detail : Fault → String
  | strayValue value column dtype =>
    "value " ++ value.display ++ " (" ++ value.dtype.display ++ ") in column " ++ quoted column ++
      " of dtype " ++ dtype.display
  | unsupported operation column dtype =>
    quoted operation ++ " is not supported on column " ++ quoted column ++ " of dtype " ++
      dtype.display
  | needsUnit operation column dtype =>
    quoted operation ++ " requires a Datetime or Duration column, " ++ quoted column ++ " is " ++
      dtype.display
  | needsDatetime operation column dtype =>
    quoted operation ++ " requires a Datetime column, " ++ quoted column ++ " is " ++ dtype.display
  | needsDate column dtype =>
    "'offset_by' requires a Date or Datetime column, " ++ quoted column ++ " is " ++ dtype.display
  | incomparable left leftType op right rightType =>
    "cannot compare " ++ withType left leftType ++ " " ++ op.symbol ++ " " ++
      withType right rightType
  | notNumeric op left right =>
    "arithmetic " ++ quoted op.symbol ++ " needs numeric operands, got " ++ left.display ++
      " and " ++ right.display
  | notBoolean predicate dtype =>
    "filter predicate " ++ quoted predicate.display ++ " must be " ++ DataType.boolean.display ++
      ", got " ++ dtype.display
  | unknownUnit name =>
    "time unit must be one of \x7b'ns', 'us', 'ms'\x7d, got " ++ quoted name
  | unknownEpochUnit name =>
    "epoch unit must be one of \x7b'ns', 'us', 'ms', 's', 'd'\x7d, got " ++ quoted name
  | unknownZone name => "unknown time zone " ++ quoted name
  | invalidPattern pattern => "invalid format string " ++ quoted pattern
  | inapplicablePattern pattern dtype =>
    "format " ++ quoted pattern ++ " does not apply to " ++ dtype.display
  | invalidShift shift => "invalid offset " ++ quoted shift
  | clockShift shift column =>
    "offset " ++ quoted shift ++ " has a sub-day part and cannot be applied to Date column " ++
      quoted column
  | fineShift shift unit column =>
    "offset " ++ quoted shift ++ " is finer than the " ++ unit.name ++ " resolution of column " ++
      quoted column
  | noKeys => "group_by requires at least one key"
  | negativeLength n => s!"head/tail length must be non-negative, got {n.toInt}"
  | rescaleOverflow value unit target =>
    s!"value {value.toInt} overflows when cast from {unit.name} to {target.name}"
  | epochOverflow day => s!"epoch of day {day.toInt} overflows i64"
  | partOverflow part value unit =>
    s!"{part.name} of duration {value.toInt}{unit.name} overflows i64"
  | noInstant reading zone =>
    String.ofList reading.text ++ " does not exist in time zone " ++ zone.name
  | noTick utc unit => String.ofList utc.text ++ " is out of range for unit " ++ unit.name
  | alreadyZoned column zone =>
    "column " ++ quoted column ++ " is already zone-aware (" ++ zone.name ++
      "); use cast_time_zone or with_time_zone"
  | sumOverflow column => "sum of column " ++ quoted column ++ " overflows i64"
  | arithmeticOverflow left op right =>
    s!"{left.toInt} {op.symbol} {right.toInt} overflows i64"
  | emptyGroup => "empty group"
  | repeatedRow row => s!"row {row} appears in more than one group"
  | strayRow row rowCount => s!"row {row} is outside the source of {rowCount} rows"
  | uncoveredRows covered rowCount => s!"groups cover {covered} of {rowCount} rows"
  | columnNotFound name => name
  | unevenColumn column length height =>
    s!"column {quoted column} has length {length}, expected {height}"
  | unevenKey key length rowCount =>
    s!"group key {quoted key} has length {length}, expected {rowCount}"
  | unevenPair left leftLength right rightLength =>
    "cannot combine " ++ withLength left leftLength ++ " with " ++ withLength right rightLength
  | manyValues aggregation count =>
    s!"aggregation {quoted aggregation.display} produced {count} values for one group"
  | duplicateColumn name => name
  | unevenRecord place fields expected =>
    s!"CSV error: record {place.record} (line: {place.line}, byte: {place.byte}): " ++
      s!"found record with {fields} fields, but the previous record has {expected} fields"
  | invalidText place field index =>
    s!"CSV parse error: record {place.record} (line {place.line}, field: {field}, " ++
      s!"byte: {place.byte}): invalid utf-8: invalid UTF-8 in field {field} " ++
      s!"near byte index {index}"
  | unreadable cause => cause
  | io cause => cause
  | readingOutOfRange .. => "Local time out of range for `NaiveDateTime`"

/-- The fault of reading a file that does not exist. -/
def missingFile : Fault := .io "No such file or directory (os error 2)"

def message (fault : Fault) : String := fault.kind.label ++ ": " ++ fault.detail

end Fault
end TimeTable
