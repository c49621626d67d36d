import TimeTable.Toml.Basic
import TimeTable.Toml.Token

namespace TimeTable.Toml

/-- How many parts a dotted key may have, and how deep arrays and inline tables may be nested. -/
def maxDepth : Nat := 79

/-- Whether a character may stand in a key without quotes. -/
def isBare (c : Char) : Bool :=
  ('a' ≤ c && c ≤ 'z') || ('A' ≤ c && c ≤ 'Z') || Numeral.isDigit c || c == '_' || c == '-'

def keyPart? (s : List Char) : Option (String × List Char) :=
  match shortString? s with
  | some (text, s) => some (.ofList text, s)
  | none =>
    let bare := s.takeWhile isBare
    if bare.isEmpty then none else some (.ofList bare, s.drop bare.length)

/-- A dotted key of at most `n` parts, with the blanks around it. -/
def key? : Nat → List Char → Option (List String × List Char)
  | 0, _ => none
  | n + 1, s => do
    let (part, s) ← keyPart? (skipSpaces s)
    match skipSpaces s with
    | '.' :: s => (key? n s).map fun r => (part :: r.1, r.2)
    | s => some ([part], s)

/-- The rest of an array behind its opening bracket, at most `n` items, each read by `item`. -/
def arrayItems? (item : List Char → Option (Toml × List Char)) :
    Nat → List Char → Option (List Toml × List Char)
  | 0, _ => none
  | n + 1, s => match skipLines s.length s with
    | ']' :: s => some ([], s)
    | s => do
      let (v, s) ← item s
      match skipLines s.length s with
      | ',' :: s => (arrayItems? item n s).map fun r => (v :: r.1, r.2)
      | ']' :: s => some ([v], s)
      | _ => none

/-- A key with its value read by `value`, added to the entries of a table. -/
def keyValue? (value : List Char → Option (Toml × List Char)) (entries : Entries) (s : List Char) :
    Option (Entries × List Char) := do
  let (path, s) ← key? maxDepth s
  let (v, s) ← value (skipSpaces (← char? '=' s))
  let key ← path.getLast?
  let entries ← match path.dropLast with
    | [] => add? key v entries
    | path => addDotted? key v false path entries
  some (entries, s)

/-- The rest of an inline table behind its opening brace, at most `n` keys, the first of which has been
announced. -/
def inlineEntries? (value : List Char → Option (Toml × List Char)) :
    Nat → Entries → List Char → Option (Entries × List Char)
  | 0, _, _ => none
  | n + 1, entries, s => do
    let (entries, s) ← keyValue? value entries s
    match skipSpaces s with
    | ',' :: s => inlineEntries? value n entries s
    | '\x7d' :: s => some (entries, s)
    | _ => none

def plainValue? (s : List Char) : Option (Toml × List Char) :=
  match s with
  | 't' :: 'r' :: 'u' :: 'e' :: s => some (.boolean true, s)
  | 'f' :: 'a' :: 'l' :: 's' :: 'e' :: s => some (.boolean false, s)
  | s =>
    ((string? s).map fun r => (.string (.ofList r.1), r.2)).or
      (((datetime? s).map fun s => (.datetime, s)).or
        (((float? s).map fun s => (.float, s)).or
          ((integer? s).map fun r => (.integer r.1, r.2))))

/-- A value, with arrays and tables nested at most `depth` deep. -/
def value? : Nat → List Char → Option (Toml × List Char)
  | 0, s => plainValue? s
  | depth + 1, s => match s with
    | '[' :: s => (arrayItems? (value? depth) (s.length + 1) s).map fun r => (.array r.1, r.2)
    | '\x7b' :: s => match skipSpaces s with
      | '\x7d' :: s => some (.table .braces [], s)
      | s =>
        (inlineEntries? (value? depth) (s.length + 1) [] s).map fun r => (.table .braces r.1, r.2)
    | s => plainValue? s

/-- The path of a header behind its opening brackets, up to its closing ones and the end of the line. -/
def headerPath? (closing : List Char) (s : List Char) : Option (List String × List Char) := do
  let (path, s) ← key? maxDepth s
  if closing.isPrefixOf s then (lineEnd? (s.drop closing.length)).map fun s => (path, s) else none

/-- Changes the parent of the table at a path. -/
def atParent? (change : String → Entries → Option Entries) (path : List String) (root : Entries) :
    Option Entries := do
  changeAt? (change (← path.getLast?)) path.dropLast root

/-- A document of at most `n` lines, added to what was read before; `path` is the last header's. -/
def document? : Nat → List String → Entries → List Char → Option Entries
  | 0, _, root, s => if s.isEmpty then some root else none
  | n + 1, path, root, s => match skipSpaces s with
    | [] => some root
    | '[' :: '[' :: s => do
      let (path, s) ← headerPath? [']', ']'] s
      document? n path (← atParent? openElement? path root) s
    | '[' :: s => do
      let (path, s) ← headerPath? [']'] s
      document? n path (← atParent? openTable? path root) s
    | s => match lineEnd? s with
      | some s => document? n path root s
      | none => do
        let (path', s') ← key? maxDepth s
        let (v, s') ← value? maxDepth (skipSpaces (← char? '=' s'))
        let key ← path'.getLast?
        let root ← changeAt? (match path'.dropLast with
          | [] => add? key v
          | dotted => addDotted? key v false dotted) path root
        document? n path root (← lineEnd? s')

/-- The entries of the root table of a document. A byte order mark in front is passed over. -/
def parse? (s : List Char) : Option Entries :=
  match s with
  | '\uFEFF' :: s => document? (s.length + 1) [] [] s
  | s => document? (s.length + 1) [] [] s

end TimeTable.Toml
