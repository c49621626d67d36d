import TimeTable.Column.Basic

/-!
# Keys of rows

The keys of a row are its cells in several columns. Rows are told apart by the equality of keys, and
hashed by feeding their keys to a hash as a sequence of writes. The writes are the same for every hash.
-/

namespace TimeTable

/-- One write to a hash: which case of its type a value is, how many items follow, or the value itself. -/
inductive HashWrite where
  | variant (n : Nat)
  | size (n : Nat)
  | byte (b : UInt8)
  | int32 (v : Int32)
  | int64 (v : Int64)
  | word (w : UInt64)
  | text (s : String)
deriving DecidableEq

def HashWrite.boolean (v : Bool) : HashWrite := .byte (if v then 1 else 0)

/-- What a part that may be missing feeds to a hash: whether it is there, then the part. -/
def HashWrite.optional {α : Type} (write : α → HashWrite) : Option α → List HashWrite
  | none => [.variant 0]
  | some v => [.variant 1, write v]

def TimeUnit.index : TimeUnit → Nat
  | nanoseconds => 0
  | microseconds => 1
  | milliseconds => 2

mutual

/-- What an item of a list feeds to a hash: which kind of value it is, then its parts. The zone is left
out. -/
def Scalar.writes : Scalar → List HashWrite
  | .null => [.variant 0]
  | .boolean v => [.variant 1, .boolean v]
  | .int64 v => [.variant 2, .int64 v]
  | .float64 v => [.variant 3, .word v.bits]
  | .utf8 v => [.variant 4, .text v]
  | .date v => [.variant 5, .int32 v]
  | .datetime v unit _ => [.variant 6, .int64 v, .variant unit.index]
  | .duration v unit => [.variant 7, .int64 v, .variant unit.index]
  | .list vs => .variant 8 :: .size vs.length :: Scalar.itemWrites vs

/-- What the items of a list feed to a hash one after the other. -/
def Scalar.itemWrites : List Scalar → List HashWrite
  | [] => []
  | v :: vs => v.writes ++ itemWrites vs

end

/-- What a cell feeds to a hash. Its column knows the type, so the kind of value and the unit are left
out. -/
def DataType.cellWrites : (dtype : DataType) → Option dtype.Cell → List HashWrite
  | null, _ => [.byte 0]
  | boolean, cell => HashWrite.optional .boolean cell
  | int64, cell => HashWrite.optional .int64 cell
  | float64, cell => HashWrite.optional (fun v => .word v.bits) cell
  | utf8, cell => HashWrite.optional .text cell
  | date, cell => HashWrite.optional .int32 cell
  | datetime _ _, cell => HashWrite.optional .int64 cell
  | duration _, cell => HashWrite.optional .int64 cell
  | list _, some vs => .byte 1 :: .size vs.length :: Scalar.itemWrites vs
  | list _, none => [.byte 0]

/-- What the cell of a row feeds to a hash. -/
def Column.keyWrites (key : Column) (row : Nat) : List HashWrite :=
  key.dtype.cellWrites (key.cell row)

def Column.rowWrites (keys : List Column) (row : Nat) : List HashWrite :=
  keys.flatMap fun key => key.keyWrites row

def HashWrite.mixWord (h w : UInt64) : UInt64 :=
  let h := (h ^^^ w) * 0x9E3779B97F4A7C15
  h ^^^ (h >>> 29)

def HashWrite.mix (h : UInt64) : HashWrite → UInt64
  | variant n => mixWord h n.toUInt64
  | size n => mixWord h n.toUInt64
  | byte b => mixWord h b.toUInt64
  | int32 v => mixWord h v.toInt64.toUInt64
  | int64 v => mixWord h v.toUInt64
  | word w => mixWord h w
  | text s => mixWord (s.toList.foldl (fun h c => mixWord h c.toNat.toUInt64) h) 0xFF

def Column.rowHash (keys : List Column) (row : Nat) : UInt64 :=
  (rowWrites keys row).foldl HashWrite.mix 0xCBF29CE484222325

/-- Equality of cells as keys: missing cells are equal, floating-point numbers by their bits, lists item
by item. -/
def DataType.sameCell : (dtype : DataType) → Option dtype.Cell → Option dtype.Cell → Bool
  | null, _, _ => true
  | boolean, v, w => v == w
  | int64, v, w => v == w
  | float64, v, w => v.map Binary64.bits == w.map Binary64.bits
  | utf8, v, w => v == w
  | date, v, w => v == w
  | datetime _ _, v, w => v == w
  | duration _, v, w => v == w
  | list _, some vs, some ws => Scalar.sameKeys vs ws
  | list _, none, none => true
  | list _, _, _ => false

def Column.sameKey (key : Column) (a b : Nat) : Bool := key.dtype.sameCell (key.cell a) (key.cell b)

def Column.sameRow (keys : List Column) (a b : Nat) : Bool := keys.all fun key => key.sameKey a b

end TimeTable
