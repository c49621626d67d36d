import TimeTable.Json.Basic
import TimeTable.Text.Hidden

/-!
# Quoted texts

A text as it stands in a message: between double quotes, with what would be hard to see escaped.
Quotes and backslashes have a backslash in front; line ends, tabs and the character of code zero have
a letter or digit behind one; any other hidden character is given by its code.
-/

namespace TimeTable

/-- The digits of a number in base sixteen, without leading zeros. -/
def Text.hexDigits (n : Nat) : List Char :=
  if n < 16 then [Json.hexDigit n] else Text.hexDigits (n / 16) ++ [Json.hexDigit (n % 16)]

/-- The code of a character in base sixteen, as an escape. -/
def Text.codeEscape (c : Char) : List Char :=
  ['\\', 'u', '\x7b'] ++ Text.hexDigits c.toNat ++ ['\x7d']

def Text.escapeChar (c : Char) : List Char :=
  match c with
  | '"' => ['\\', '"']
  | '\'' => ['\\', '\'']
  | '\\' => ['\\', '\\']
  | '\n' => ['\\', 'n']
  | '\r' => ['\\', 'r']
  | '\t' => ['\\', 't']
  | '\x00' => ['\\', '0']
  | c => if Text.isHidden c then Text.codeEscape c else [c]

def Text.inQuotes (s : String) : String :=
  .ofList ('"' :: s.toList.flatMap Text.escapeChar ++ ['"'])

end TimeTable
