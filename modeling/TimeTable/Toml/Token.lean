import TimeTable.Binary64.Text
import TimeTable.Calendar.Date
import TimeTable.Text.Case
import TimeTable.Text.Numeral

namespace TimeTable.Toml

/-! ### Blanks and lines -/

/-- Whether a character is a blank inside a line. -/
def isSpace (c : Char) : Bool := c == ' ' || c == '\t'

def skipSpaces (s : List Char) : List Char := s.dropWhile isSpace

/-- Whether a character may stand in a comment or string: no control character but the tab. -/
def isPlain (c : Char) : Bool := c == '\t' || (32 ≤ c.toNat && c.toNat != 127)

def lineBreak? : List Char → Option (List Char)
  | '\n' :: s => some s
  | '\r' :: '\n' :: s => some s
  | _ => none

/-- The rest behind a comment, if there is one. -/
def skipComment : List Char → List Char
  | '#' :: s => s.dropWhile isPlain
  | s => s

/-- The rest behind blanks, an optional comment and the end of the line or text. -/
def lineEnd? (s : List Char) : Option (List Char) :=
  match skipComment (skipSpaces s) with
  | [] => some []
  | s => lineBreak? s

/-- The rest behind any number of blanks and line ends, at most `n` lines. -/
def skipBlankLines : Nat → List Char → List Char
  | 0, s => s
  | n + 1, s =>
    let s := skipSpaces s
    match lineBreak? s with
    | some rest => skipBlankLines n rest
    | none => s

/-- The rest behind any number of blanks, comments and line ends, at most `n` lines. -/
def skipLines : Nat → List Char → List Char
  | 0, s => s
  | n + 1, s =>
    let s := skipSpaces s
    match lineBreak? (skipComment s) with
    | some rest => skipLines n rest
    | none => s

/-! ### Strings -/

/-- The number that digits in base sixteen stand for, if they are such digits. -/
def hexNumber? (s : List Char) : Option Nat :=
  s.foldlM (fun n c =>
    let c := Text.lowerAscii c
    if Numeral.isDigit c then some (n * 16 + Numeral.value c)
    else if 'a' ≤ c ∧ c ≤ 'f' then some (n * 16 + (c.toNat - 87))
    else none) 0

/-- The character with a number given by `count` digits in base sixteen. -/
def hexChar? (count : Nat) (s : List Char) : Option (Char × List Char) := do
  let digits := s.take count
  let n ← hexNumber? digits
  if digits.length = count ∧ n.isValidChar then some (Char.ofNat n, s.drop count) else none

/-- The character that an escape stands for, given what follows the backslash. -/
def escape? : List Char → Option (Char × List Char)
  | 'b' :: s => some ('\x08', s)
  | 't' :: s => some ('\t', s)
  | 'n' :: s => some ('\n', s)
  | 'f' :: s => some ('\x0c', s)
  | 'r' :: s => some ('\r', s)
  | '"' :: s => some ('"', s)
  | '\\' :: s => some ('\\', s)
  | 'u' :: s => hexChar? 4 s
  | 'U' :: s => hexChar? 8 s
  | _ => none

/-- The rest of a string on one line up to its closing quote, at most `n` characters. -/
def basicString? : Nat → List Char → Option (List Char × List Char)
  | 0, _ => none
  | n + 1, s => match s with
    | '"' :: s => some ([], s)
    | '\\' :: s => do
      let (c, s) ← escape? s
      (basicString? n s).map fun r => (c :: r.1, r.2)
    | c :: s => if isPlain c then (basicString? n s).map fun r => (c :: r.1, r.2) else none
    | [] => none

/-- The rest of a string without escapes up to its closing quote. -/
def literalString? (s : List Char) : Option (List Char × List Char) :=
  let inside := s.takeWhile fun c => isPlain c && c != '\''
  match s.drop inside.length with
  | '\'' :: s => some (inside, s)
  | _ => none

/-- What a run of quotes means in a string on several lines: three of them close it, and up to two in
front of these belong to it. Gives the quotes that belong to the string and whether it is closed. -/
def quoteRun (mark : Char) (s : List Char) : Nat × Bool :=
  let run := min (s.takeWhile (· == mark)).length 5
  if run < 3 then (run, false) else (run - 3, true)

/-- The rest behind the blanks and line ends after a backslash at the end of a line. -/
def foldedLine? (s : List Char) : Option (List Char) :=
  (lineBreak? (skipSpaces s)).map fun s => skipBlankLines s.length s

/-- The rest of a string on several lines up to its closing quotes, at most `n` steps; `mark` is the
quote and `escapes` says whether backslashes escape. -/
def longString? (mark : Char) (escapes : Bool) :
    Nat → List Char → Option (List Char × List Char)
  | 0, _ => none
  | n + 1, s =>
    let more (cs : List Char) (s : List Char) :=
      (longString? mark escapes n s).map fun r => (cs ++ r.1, r.2)
    match s with
    | [] => none
    | c :: rest =>
      if c = mark then
        match quoteRun mark s with
        | (k, true) => some (List.replicate k mark, s.drop (k + 3))
        | (k, false) => more (List.replicate k mark) (s.drop k)
      else if c = '\\' ∧ escapes then
        match escape? rest with
        | some (e, rest) => more [e] rest
        | none => (foldedLine? rest).bind (more [])
      else match lineBreak? s with
        | some rest => more ['\n'] rest
        | none => if isPlain c then more [c] rest else none

def skipLineBreak (s : List Char) : List Char := (lineBreak? s).getD s

/-- A string on one line, in either kind of quotes. -/
def shortString? : List Char → Option (List Char × List Char)
  | '"' :: s => basicString? (s.length + 1) s
  | '\'' :: s => literalString? s
  | _ => none

def string? : List Char → Option (List Char × List Char)
  | '"' :: '"' :: '"' :: s => longString? '"' true (s.length + 1) (skipLineBreak s)
  | '\'' :: '\'' :: '\'' :: s => longString? '\'' false (s.length + 1) (skipLineBreak s)
  | s => shortString? s

/-! ### Numbers -/

def sign : List Char → Bool × List Char
  | '-' :: s => (true, s)
  | '+' :: s => (false, s)
  | s => (false, s)

/-- Digits that may have single underscores between them, and the rest. -/
def digitRun (isDigit : Char → Bool) : List Char → List Char × List Char
  | [] => ([], [])
  | '_' :: c :: s =>
    if isDigit c then
      let r := digitRun isDigit s
      (c :: r.1, r.2)
    else ([], '_' :: c :: s)
  | c :: s =>
    if isDigit c then
      let r := digitRun isDigit s
      (c :: r.1, r.2)
    else ([], c :: s)

/-- One or more digits with single underscores between them, and the rest. -/
def digits? (isDigit : Char → Bool) (s : List Char) : Option (List Char × List Char) :=
  match s with
  | c :: _ => if isDigit c then some (digitRun isDigit s) else none
  | [] => none

/-- The digits of a decimal integer without leading zeros, and the rest. -/
def wholeDigits? : List Char → Option (List Char × List Char)
  | '0' :: s => some (['0'], s)
  | s => digits? Numeral.isDigit s

/-- Whether a character is a digit in base sixteen. -/
def isHexDigit (c : Char) : Bool := (hexNumber? [c]).isSome

/-- The number that digits in a base of at most sixteen stand for. -/
def numberInBase (base : Nat) (digits : List Char) : Nat :=
  digits.foldl (fun n c => n * base + (hexNumber? [c]).getD 0) 0

/-- An integer and the rest: decimal with an optional sign, or in base sixteen, eight or two. It has to
fit a word of 64 bits. -/
def integer? (s : List Char) : Option (Int × List Char) := do
  let (n, s) ← match s with
    | '0' :: 'x' :: s => (digits? isHexDigit s).map fun r => ((numberInBase 16 r.1 : Int), r.2)
    | '0' :: 'o' :: s =>
      (digits? (fun c => '0' ≤ c && c ≤ '7') s).map fun r => ((numberInBase 8 r.1 : Int), r.2)
    | '0' :: 'b' :: s =>
      (digits? (fun c => c == '0' || c == '1') s).map fun r => ((numberInBase 2 r.1 : Int), r.2)
    | s =>
      let (negative, s) := sign s
      (wholeDigits? s).map fun r =>
        (if negative then -(Numeral.toNat r.1 : Int) else (Numeral.toNat r.1 : Int), r.2)
  if -0x8000000000000000 ≤ n ∧ n < 0x8000000000000000 then some (n, s) else none

def exponent? : List Char → Option (List Char)
  | c :: s =>
    if c = 'e' ∨ c = 'E' then (digits? Numeral.isDigit (sign s).2).map Prod.snd else none
  | [] => none

/-- The rest behind a decimal with a fraction or an exponent, and without a sign. -/
def decimal? (s : List Char) : Option (List Char) := do
  let (_, s) ← wholeDigits? s
  match s with
  | '.' :: s => do
    let (_, s) ← digits? Numeral.isDigit s
    some ((exponent? s).getD s)
  | s => exponent? s

/-- The number that a decimal with underscores stands for. -/
def number? (s : List Char) : Option Binary64 := Binary64.read? (s.filter (· != '_'))

/-- The rest behind a floating-point number: a decimal, or one of the words for the infinities and no
number. A decimal may not be so great that it is rounded to positive infinity. -/
def float? (s : List Char) : Option (List Char) :=
  match (sign s).2 with
  | 'i' :: 'n' :: 'f' :: s => some s
  | 'n' :: 'a' :: 'n' :: s => some s
  | unsigned => do
    let rest ← decimal? unsigned
    if number? (s.take (s.length - rest.length)) = some (.ofParts false Binary64.infinite) then none
    else some rest

/-! ### Dates and times -/

/-- A number of exactly `count` digits from `low` to `high`, and the rest. -/
def field? (count low high : Nat) (s : List Char) : Option (Nat × List Char) := do
  let digits := s.take count
  let n ← Numeral.readNat? digits
  if digits.length = count ∧ low ≤ n ∧ n ≤ high then some (n, s.drop count) else none

def char? (c : Char) : List Char → Option (List Char)
  | c' :: s => if c = c' then some s else none
  | [] => none

/-- The rest behind a date. -/
def date? (s : List Char) : Option (List Char) := do
  let (year, s) ← field? 4 0 9999 s
  let (month, s) ← field? 2 1 12 (← char? '-' s)
  let (_, s) ← field? 2 1 (Calendar.monthLength year month) (← char? '-' s)
  some s

def time? (s : List Char) : Option (List Char) := do
  let (_, s) ← field? 2 0 23 s
  let (_, s) ← field? 2 0 59 (← char? ':' s)
  let (_, s) ← field? 2 0 60 (← char? ':' s)
  match s with
  | '.' :: s =>
    if s.takeWhile Numeral.isDigit = [] then none else some (s.dropWhile Numeral.isDigit)
  | s => some s

def timeOffset? : List Char → Option (List Char)
  | 'Z' :: s => some s
  | 'z' :: s => some s
  | c :: s =>
    if c = '+' ∨ c = '-' then do
      let (_, s) ← field? 2 0 23 s
      let (_, s) ← field? 2 0 59 (← char? ':' s)
      some s
    else none
  | [] => none

/-- The rest behind the time that may follow a date. -/
def timeOfDate? : List Char → Option (List Char)
  | c :: s =>
    if c = 'T' ∨ c = 't' ∨ c = ' ' then do
      let s ← time? s
      some ((timeOffset? s).getD s)
    else none
  | [] => none

/-- The rest behind a date, a time, or both. -/
def datetime? (s : List Char) : Option (List Char) :=
  match date? s with
  | some s => some ((timeOfDate? s).getD s)
  | none => time? s

end TimeTable.Toml
