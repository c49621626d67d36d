import TimeTable.Pattern.Fields
import TimeTable.Pattern.Item
import TimeTable.Pattern.Names
import TimeTable.Text.Case

/-!
# Reading by a pattern

Each item takes what it matches off the front of a text and adds a field. A text matches a pattern if
the items take all of it and the fields amount to a date or a date and time.
-/

namespace TimeTable.Pattern

/-- The fields read so far and the rest of the text. -/
abbrev State : Type := Fields × List Char

/-- At most `width` digits, at least one, and the rest. -/
def digits? (width : Nat) (s : List Char) : Option (Int × List Char) :=
  let ds := (s.take width).takeWhile Numeral.isDigit
  if ds.isEmpty then none else some (Numeral.toNat ds, s.drop ds.length)

/-- Exactly `width` digits and the rest. -/
def exactDigits? (width : Nat) (s : List Char) : Option (Int × List Char) :=
  let ds := s.take width
  if ds.length = width ∧ ds.all Numeral.isDigit ∧ 0 < width then
    some (Numeral.toNat ds, s.drop width)
  else none

/-- A year: digits up to `width`, or any number of digits after a sign. -/
def yearNumber? (width : Nat) : List Char → Option (Int × List Char)
  | '-' :: s => (digits? s.length s).map fun r => (-r.1, r.2)
  | '+' :: s => digits? s.length s
  | s => digits? width s

/-- The most digits that a part is read with. -/
def Part.width : Part → Nat
  | .year | .isoYear => 4
  | .century | .yearOfCentury | .isoYearOfCentury | .month | .day | .weekFromSunday
  | .weekFromMonday | .isoWeek | .hour | .hour12 | .minute | .second => 2
  | .quarter | .daysFromSunday | .weekdayFromMonday => 1
  | .ordinal => 3
  | .nanosecond => 9
  | .timestamp => 0

/-- The digits of a part and the rest; a timestamp has any number of digits, and a year may have a
sign. -/
def Part.number? (part : Part) (s : List Char) : Option (Int × List Char) :=
  match part with
  | .year | .isoYear => yearNumber? part.width s
  | .timestamp => digits? s.length s
  | _ => digits? part.width s

/-- A part that has been read as a number, as a field. -/
def Part.put? (part : Part) (fields : Fields) (n : Int) : Option Fields :=
  match part with
  | .year => fields.put? .year n
  | .century => fields.put? .century n
  | .yearOfCentury => fields.put? .yearOfCentury n
  | .isoYear => fields.put? .isoYear n
  | .isoYearOfCentury => fields.put? .isoYearOfCentury n
  | .quarter => fields.put? .quarter n
  | .month => fields.put? .month n
  | .day => fields.put? .day n
  | .weekFromSunday => fields.put? .weekFromSunday n
  | .weekFromMonday => fields.put? .weekFromMonday n
  | .isoWeek => fields.put? .isoWeek n
  | .daysFromSunday => if n ≤ 6 then fields.put? .weekday ((n + 6) % 7) else none
  | .weekdayFromMonday => fields.put? .weekday (n - 1)
  | .ordinal => fields.put? .ordinal n
  | .hour => fields.putHour? n
  | .hour12 => if 1 ≤ n ∧ n ≤ 12 then fields.put? .hour (n % 12) else none
  | .minute => fields.put? .minute n
  | .second => fields.put? .second n
  | .nanosecond => fields.put? .nanosecond n
  | .timestamp => fields.put? .timestamp n

/-- The rest of a text behind a beginning, in any case. -/
def dropLetters? (start : List Char) (s : List Char) : Option (List Char) :=
  if Text.sameLetters (s.take start.length) start then some (s.drop start.length) else none

/-- The place of the name that a text begins with by its first three letters, and the rest. The
other letters of the name are taken too if `full` is set and they are there. -/
def name? (full : Bool) (names : List String) (s : List Char) : Option (Nat × List Char) := do
  let place ← names.findIdx? fun name => (dropLetters? (name.toList.take 3) s).isSome
  let name := (names.getD place "").toList
  let short := s.drop 3
  if full then some (place, (dropLetters? (name.drop 3) short).getD short)
  else some (place, short)

def halfDay? (s : List Char) : Option (Int × List Char) :=
  match dropLetters? ['a', 'm'] s, dropLetters? ['p', 'm'] s with
  | some rest, _ => some (0, rest)
  | none, some rest => some (1, rest)
  | none, none => none

/-- The nanoseconds that the digits after a point stand for, at least one digit; those after the
ninth are dropped. -/
def fraction? (s : List Char) : Option (Int × List Char) := do
  let (n, rest) ← digits? 9 s
  some (n * Nat.pow 10 (9 - (s.length - rest.length)), rest.dropWhile Numeral.isDigit)

/-- The nanoseconds that exactly `count` digits stand for. -/
def places? (count : Nat) (s : List Char) : Option (Int × List Char) := do
  let (n, rest) ← exactDigits? count s
  some (n * Nat.pow 10 (9 - count), rest)

/-- How offsets from UTC may be spelled. -/
structure OffsetForm where
  /-- Takes what stands between hours and minutes off a text. -/
  separator : List Char → Option (List Char)
  /-- Whether the letter Z may stand for no offset. -/
  zulu : Bool
  /-- Whether the minutes may be missing. -/
  hoursOnly : Bool

def looseSeparator (s : List Char) : Option (List Char) :=
  some (s.dropWhile fun c => c == ':' || Text.isBlank c)

def colon? : List Char → Option (List Char)
  | ':' :: s => some s
  | _ => none

/-- A sign and the rest; the minus sign of typography counts as one. -/
def sign? : List Char → Option (Bool × List Char)
  | '+' :: s => some (false, s)
  | '-' :: s => some (true, s)
  | '\u2212' :: s => some (true, s)
  | _ => none

/-- An offset from UTC in seconds, and the rest. -/
def offset? (form : OffsetForm) (s : List Char) : Option (Int × List Char) :=
  match form.zulu && Text.sameLetters (s.take 1) ['z'] with
  | true => some (0, s.drop 1)
  | false => do
    let (negative, s) ← sign? s
    let (hours, s) ← exactDigits? 2 s
    let s ← form.separator s
    let (minutes, s) ← if s.isEmpty && form.hoursOnly then some (0, s) else exactDigits? 2 s
    let seconds := hours * 3600 + minutes * 60
    if minutes ≤ 59 then some (if negative then -seconds else seconds, s) else none

/-- Takes one item off a text, the form of RFC 3339 apart. -/
def Item.readPart? (item : Item) (state : State) : Option State :=
  let (fields, s) := state
  match item with
  | .literal c => match s with
    | c' :: s => if c = c' then some (fields, s) else none
    | [] => none
  | .blank _ => some (fields, Text.trimStart s)
  | .number part _ => do
    let (n, s) ← part.number? (Text.trimStart s)
    some (← part.put? fields n, s)
  | .monthName full => do
    let (n, s) ← name? full monthNames s
    some (← fields.put? .month (n + 1), s)
  | .weekdayName full => do
    let (n, s) ← name? full weekdayNames s
    some (← fields.put? .weekday n, s)
  | .halfDay _ => do
    let (n, s) ← halfDay? s
    some (← fields.put? .half n, s)
  | .fraction => match s with
    | '.' :: s => do
      let (n, s) ← fraction? s
      some (← fields.put? .nanosecond n, s)
    | _ => some (fields, s)
  | .places count true => match s with
    | '.' :: s => do
      let (n, s) ← places? count s
      some (← fields.put? .nanosecond n, s)
    | _ => some (fields, s)
  | .places count false => do
    let (n, s) ← places? count s
    some (← fields.put? .nanosecond n, s)
  | .zoneName => some (fields, s.dropWhile fun c => !Text.isBlank c)
  | .offset _ => do
    let (n, s) ← offset? ⟨looseSeparator, false, false⟩ (Text.trimStart s)
    some (← fields.put? .offset n, s)
  | .looseOffset => do
    let (n, s) ← offset? ⟨looseSeparator, true, true⟩ (Text.trimStart s)
    some (← fields.put? .offset n, s)
  | .rfc3339 => none

/-- Takes items off a text one after the other. -/
def readParts? (items : List Item) (state : State) : Option State :=
  items.foldlM (fun state item => item.readPart? state) state

/-- The date and the time in the form of RFC 3339, blanks being allowed before each separator. -/
def rfc3339Date : List Item :=
  [zeros .year, .blank ' ', .literal '-', zeros .month, .blank ' ', .literal '-', zeros .day]

/-- The time in the form of RFC 3339, blanks being allowed before each separator. -/
def rfc3339Time : List Item :=
  [zeros .hour, .blank ' ', .literal ':', zeros .minute, .blank ' ', .literal ':', zeros .second,
    .fraction, .blank ' ']

/-- The rest behind the letter T or a blank between date and time. -/
def dateTimeSeparator? : List Char → Option (List Char)
  | 'T' :: s => some s
  | 't' :: s => some s
  | ' ' :: s => some s
  | _ => none

def Item.read? (item : Item) (state : State) : Option State :=
  match item with
  | .rfc3339 => do
    let (fields, s) ← readParts? rfc3339Date state
    let s ← dateTimeSeparator? s
    let (fields, s) ← readParts? rfc3339Time (fields, s)
    let (n, s) ← match dropLetters? ['u', 't', 'c'] s with
      | some s => some (0, s)
      | none => offset? ⟨looseSeparator, true, false⟩ s
    some (← fields.put? .offset n, s)
  | item => item.readPart? state

/-- The fields of a text that matches all items. -/
def read? (items : List Item) (s : List Char) : Option Fields :=
  match items.foldlM (fun state item => Item.read? item state) (Fields.empty, s) with
  | some (fields, []) => some fields
  | _ => none

/-- The day that a text stands for by a pattern. -/
def readDay? (pattern s : List Char) : Option Int := do
  (← read? (← parse? pattern) s).day?

/-- The date and time that a text stands for by a pattern. -/
def readDateTime? (pattern s : List Char) : Option DateTime := do
  (← read? (← parse? pattern) s).dateTime?

/-- Takes exactly `width` digits off a text and adds them as a part. -/
def part? (part : Part) (width : Nat) (state : State) : Option State := do
  let (n, s) ← exactDigits? width state.2
  some (← part.put? state.1 n, s)

def char? (c : Char) (state : State) : Option State := Item.readPart? (.literal c) state

/-- The date and time in UTC that a text in the form of RFC 3339 stands for: all parts with their
full number of digits, an optional fraction, and an offset of less than a day. -/
def readRfc3339? (s : List Char) : Option DateTime := do
  let state ← part? .year 4 (Fields.empty, s)
  let state ← part? .month 2 (← char? '-' state)
  let state ← part? .day 2 (← char? '-' state)
  let state ← part? .hour 2 (state.1, ← dateTimeSeparator? state.2)
  let state ← part? .minute 2 (← char? ':' state)
  let state ← part? .second 2 (← char? ':' state)
  let (fields, s) ← Item.readPart? .fraction state
  let (offset, rest) ← offset? ⟨colon?, true, false⟩ s
  let t ← fields.dateTime?
  if rest.isEmpty && offset.natAbs < 86400 then some (t.addSeconds (-offset)) else none

end TimeTable.Pattern
