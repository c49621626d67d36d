import TimeTable.Text.Numeral

/-!
# JSON text

JSON values and their two written forms: compact, and with each item on a line of its own. Numbers are
kept as the text that they are written as.
-/

namespace TimeTable

/-- A JSON value. The members of an object keep their order. -/
inductive Json where
  | null
  | boolean (v : Bool)
  | number (text : List Char)
  | string (s : String)
  | array (items : List Json)
  | object (members : List (String × Json))
deriving Inhabited

namespace Json

/-- A digit in base sixteen, in small letters. -/
def hexDigit (n : Nat) : Char := Char.ofNat (if n < 10 then 48 + n else 87 + n)

/-- A character inside a string. Quotes, backslashes and control characters are escaped. -/
def escape (c : Char) : List Char :=
  if c = '"' then ['\\', '"']
  else if c = '\\' then ['\\', '\\']
  else if c = '\n' then ['\\', 'n']
  else if c = '\r' then ['\\', 'r']
  else if c = '\t' then ['\\', 't']
  else if c.toNat = 8 then ['\\', 'b']
  else if c.toNat = 12 then ['\\', 'f']
  else if c.toNat < 32 then
    ['\\', 'u', '0', '0', hexDigit (c.toNat / 16), hexDigit (c.toNat % 16)]
  else [c]

def quote (s : String) : List Char := '"' :: s.toList.flatMap escape ++ ['"']

mutual

def compact : Json → List Char
  | null => ['n', 'u', 'l', 'l']
  | boolean true => ['t', 'r', 'u', 'e']
  | boolean false => ['f', 'a', 'l', 's', 'e']
  | number text => text
  | string s => quote s
  | array items => '[' :: compactItems items ++ [']']
  | object members => '\x7b' :: compactMembers members ++ ['\x7d']

def compactItems : List Json → List Char
  | [] => []
  | [v] => v.compact
  | v :: vs => v.compact ++ ',' :: compactItems vs

def compactMembers : List (String × Json) → List Char
  | [] => []
  | [(name, v)] => quote name ++ ':' :: v.compact
  | (name, v) :: ms => quote name ++ ':' :: v.compact ++ ',' :: compactMembers ms

end

/-- The start of a line at a depth, two blanks for each level. -/
def newline (depth : Nat) : List Char := '\n' :: List.replicate (2 * depth) ' '

mutual

/-- A value with each item and member on a line of its own; what is empty stays on one line. -/
def pretty (depth : Nat) : Json → List Char
  | null => ['n', 'u', 'l', 'l']
  | boolean true => ['t', 'r', 'u', 'e']
  | boolean false => ['f', 'a', 'l', 's', 'e']
  | number text => text
  | string s => quote s
  | array [] => ['[', ']']
  | array (v :: vs) =>
    '[' :: newline (depth + 1) ++ v.pretty (depth + 1) ++ prettyItems (depth + 1) vs ++
      newline depth ++ [']']
  | object [] => ['\x7b', '\x7d']
  | object ((name, v) :: ms) =>
    '\x7b' :: newline (depth + 1) ++ quote name ++ ':' :: ' ' :: v.pretty (depth + 1) ++
      prettyMembers (depth + 1) ms ++ newline depth ++ ['\x7d']

/-- The items behind the first one. -/
def prettyItems (depth : Nat) : List Json → List Char
  | [] => []
  | v :: vs => ',' :: newline depth ++ v.pretty depth ++ prettyItems depth vs

/-- The members behind the first one. -/
def prettyMembers (depth : Nat) : List (String × Json) → List Char
  | [] => []
  | (name, v) :: ms =>
    ',' :: newline depth ++ quote name ++ ':' :: ' ' :: v.pretty depth ++ prettyMembers depth ms

end

end Json
end TimeTable
