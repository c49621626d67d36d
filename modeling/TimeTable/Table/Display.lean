import TimeTable.Table.Basic

/-!
# Tables as text

The text of a table: its shape, then a line of names, a line of types, a rule, and a line for each
row. Every column is as wide as its longest text in UTF-8, and texts are filled up with blanks by
counting characters.
-/

namespace TimeTable.Table

def byteLength (s : List Char) : Nat := s.foldr (fun c n => c.utf8Size + n) 0

/-- A text with blanks behind it, at least `width` characters. -/
def padEnd (width : Nat) (s : List Char) : List Char := s ++ List.replicate (width - s.length) ' '

/-- The texts of a column from top to bottom: its name, its type and its values. -/
def texts (c : Column) : List (List Char) :=
  c.name.toList :: c.dtype.display.toList :: c.toScalars.map Scalar.text

def textWidth (c : Column) : Nat := (texts c).foldl (fun w s => max w (byteLength s)) 0

def line (widths : List Nat) (cells : List (List Char)) : List Char :=
  '|' :: ' ' :: (List.intercalate [' ', '|', ' '] (List.zipWith padEnd widths cells)) ++
    [' ', '|', '\n']

/-- The line between the heads of the columns and their values. -/
def rule (widths : List Nat) : List Char :=
  '+' :: (List.intercalate ['+'] (widths.map fun w => List.replicate (w + 2) '-')) ++ ['+', '\n']

def shapeLine (t : Table) : List Char := s!"shape: ({t.height}, {t.width})\n".toList

def text (t : Table) : List Char :=
  if t.columns.isEmpty then shapeLine t
  else
    let widths := t.columns.map textWidth
    shapeLine t ++ line widths (t.columns.map (·.name.toList)) ++
      line widths (t.columns.map (·.dtype.display.toList)) ++ rule widths ++
      (t.rows.map fun row => line widths (row.map Scalar.text)).flatten

def display (t : Table) : String := .ofList t.text

end TimeTable.Table
