import TimeTable.Text.Blank

/-!
# Patterns for dates and times

A pattern is a text in which a percent sign and a letter stand for a part of a date or time. It is
read into a list of items, each of which is a single part or a single character; specifiers that
abbreviate several parts are spelled out.
-/

namespace TimeTable.Pattern

/-- How a number is filled up to its usual width. -/
inductive Pad where
  | none
  | zero
  | blank
deriving DecidableEq

/-- The parts that are written as numbers. -/
inductive Part where
  | year
  | century
  | yearOfCentury
  | isoYear
  | isoYearOfCentury
  | quarter
  | month
  | day
  | weekFromSunday
  | weekFromMonday
  | isoWeek
  | daysFromSunday
  | weekdayFromMonday
  | ordinal
  | hour
  | hour12
  | minute
  | second
  | nanosecond
  | timestamp
deriving DecidableEq

/-- One item of a pattern. -/
inductive Item where
  /-- A character that stands for itself. -/
  | literal (c : Char)
  /-- A blank character, which on reading matches any number of blanks. -/
  | blank (c : Char)
  /-- A part written as a number. -/
  | number (part : Part) (pad : Pad)
  /-- The name of the month, in full or its first three letters. -/
  | monthName (full : Bool)
  /-- The name of the day of the week, in full or its first three letters. -/
  | weekdayName (full : Bool)
  /-- The half of the day, in capitals or small letters. -/
  | halfDay (capital : Bool)
  /-- A point and the fraction of a second, or nothing if that is zero. -/
  | fraction
  /-- A fixed number of places of the fraction of a second, with or without a point. -/
  | places (count : Nat) (point : Bool)
  /-- The abbreviation of the zone. -/
  | zoneName
  /-- The offset from UTC with a number of colons: none, one, two, or three for hours only. -/
  | offset (colons : Nat)
  /-- The offset from UTC in any spelling, for reading only. -/
  | looseOffset
  /-- The date and time in the form of RFC 3339. -/
  | rfc3339
deriving DecidableEq

/-- The part that a letter stands for, with its padding. -/
def numberOf? : Char → Option (Part × Pad)
  | 'Y' => some (.year, .zero)
  | 'C' => some (.century, .zero)
  | 'y' => some (.yearOfCentury, .zero)
  | 'G' => some (.isoYear, .zero)
  | 'g' => some (.isoYearOfCentury, .zero)
  | 'q' => some (.quarter, .none)
  | 'm' => some (.month, .zero)
  | 'd' => some (.day, .zero)
  | 'e' => some (.day, .blank)
  | 'U' => some (.weekFromSunday, .zero)
  | 'W' => some (.weekFromMonday, .zero)
  | 'V' => some (.isoWeek, .zero)
  | 'w' => some (.daysFromSunday, .none)
  | 'u' => some (.weekdayFromMonday, .none)
  | 'j' => some (.ordinal, .zero)
  | 'H' => some (.hour, .zero)
  | 'k' => some (.hour, .blank)
  | 'I' => some (.hour12, .zero)
  | 'l' => some (.hour12, .blank)
  | 'M' => some (.minute, .zero)
  | 'S' => some (.second, .zero)
  | 'f' => some (.nanosecond, .zero)
  | 's' => some (.timestamp, .none)
  | _ => none

def zeros (part : Part) : Item := .number part .zero

/-- The time of day as `00:34:59`. -/
def clockItems : List Item :=
  [zeros .hour, .literal ':', zeros .minute, .literal ':', zeros .second]

def itemsOf? (c : Char) : Option (List Item) :=
  match numberOf? c with
  | some (part, pad) => some [.number part pad]
  | none =>
    match c with
    | 'A' => some [.weekdayName true]
    | 'a' => some [.weekdayName false]
    | 'B' => some [.monthName true]
    | 'b' | 'h' => some [.monthName false]
    | 'P' => some [.halfDay false]
    | 'p' => some [.halfDay true]
    | 'D' | 'x' =>
      some [zeros .month, .literal '/', zeros .day, .literal '/', zeros .yearOfCentury]
    | 'F' => some [zeros .year, .literal '-', zeros .month, .literal '-', zeros .day]
    | 'v' =>
      some [.number .day .blank, .literal '-', .monthName false, .literal '-', zeros .year]
    | 'R' => some [zeros .hour, .literal ':', zeros .minute]
    | 'T' | 'X' => some clockItems
    | 'r' =>
      some [zeros .hour12, .literal ':', zeros .minute, .literal ':', zeros .second, .blank ' ',
        .halfDay true]
    | 'c' =>
      some ([.weekdayName false, .blank ' ', .monthName false, .blank ' ', .number .day .blank,
        .blank ' '] ++ clockItems ++ [.blank ' ', zeros .year])
    | 'Z' => some [.zoneName]
    | 'z' => some [.offset 0]
    | '+' => some [.rfc3339]
    | 'n' => some [.blank '\n']
    | 't' => some [.blank '\t']
    | '%' => some [.literal '%']
    | _ => none

def padOf? : Char → Option Pad
  | '-' => some .none
  | '0' => some .zero
  | '_' => some .blank
  | _ => none

/-- The items of a specifier, given what follows the percent sign, and the rest of the pattern. A
padding modifier goes with a single number only. -/
def specifier? : List Char → Option (List Item × List Char)
  | ':' :: ':' :: ':' :: 'z' :: s => some ([.offset 3], s)
  | ':' :: ':' :: 'z' :: s => some ([.offset 2], s)
  | ':' :: 'z' :: s => some ([.offset 1], s)
  | '#' :: 'z' :: s => some ([.looseOffset], s)
  | '.' :: 'f' :: s => some ([.fraction], s)
  | '.' :: '3' :: 'f' :: s => some ([.places 3 true], s)
  | '.' :: '6' :: 'f' :: s => some ([.places 6 true], s)
  | '.' :: '9' :: 'f' :: s => some ([.places 9 true], s)
  | '3' :: 'f' :: s => some ([.places 3 false], s)
  | '6' :: 'f' :: s => some ([.places 6 false], s)
  | '9' :: 'f' :: s => some ([.places 9 false], s)
  | c :: s =>
    match padOf? c, s with
    | some pad, c :: s => (numberOf? c).map fun number => ([.number number.1 pad], s)
    | some _, [] => none
    | none, s => (itemsOf? c).map fun items => (items, s)
  | [] => none

theorem specifier?_length {s : List Char} {items : List Item} {rest : List Char}
    (h : specifier? s = some (items, rest)) : rest.length < s.length := by
  unfold specifier? at h
  split at h
  all_goals first
    | (injection h with h; injection h with _ h; subst h; simp only [List.length_cons]; omega)
    | skip
  · split at h
    · obtain ⟨_, _, h⟩ := Option.map_eq_some_iff.1 h
      injection h with _ h
      subst h
      simp only [List.length_cons]
      omega
    · exact nomatch h
    · obtain ⟨_, _, h⟩ := Option.map_eq_some_iff.1 h
      injection h with _ h
      subst h
      simp only [List.length_cons]
      omega
  · exact nomatch h

/-- The items of a pattern; there are none if some specifier does not exist. -/
def parse? (s : List Char) : Option (List Item) :=
  match s with
  | [] => some []
  | '%' :: s =>
    match _h : specifier? s with
    | some (items, rest) => (parse? rest).map (items ++ ·)
    | none => none
  | c :: s => (parse? s).map ((if Text.isBlank c then .blank c else .literal c) :: ·)
termination_by s.length
decreasing_by
  · have := specifier?_length _h
    simp only [List.length_cons]
    omega
  · simp only [List.length_cons]
    omega

end TimeTable.Pattern
