/-!
# Binary floating-point numbers

A number of the interchange format binary64 is its bit pattern. Two orders live on the patterns: the
comparison of numbers, in which a NaN compares with nothing and the zeros are equal, and the total
order, in which `-NaN < -∞ < … < -0 < +0 < … < ∞ < NaN`. Grouping tells all patterns apart.
-/

namespace TimeTable

/-- A binary64 number, given by its bits: sign, exponent, fraction. -/
structure Binary64 where
  bits : UInt64
deriving DecidableEq, Inhabited

namespace Binary64

def isNegative (x : Binary64) : Bool := 0x8000000000000000 ≤ x.bits.toNat

/-- The bits without the sign; they grow with the absolute value. -/
def magnitude (x : Binary64) : Nat := x.bits.toNat % 0x8000000000000000

def infinite : Nat := 0x7FF0000000000000

def isNaN (x : Binary64) : Bool := infinite < x.magnitude

/-- Whether the pattern is a finite number. -/
def isFinite (x : Binary64) : Bool := x.magnitude < infinite

/-- The pattern with a given sign and magnitude. -/
def ofParts (negative : Bool) (magnitude : Nat) : Binary64 :=
  ⟨UInt64.ofNat (if negative then 0x8000000000000000 + magnitude else magnitude)⟩

def zero : Binary64 := ⟨0⟩

def negativeZero : Binary64 := ⟨0x8000000000000000⟩

/-- The NaN that an invalid operation gives. -/
def invalid : Binary64 := ⟨0xFFF8000000000000⟩

/-- The NaN that the word `nan` denotes. -/
def nan : Binary64 := ⟨0x7FF8000000000000⟩

/-- The place of a number among the numbers; both zeros stand at `0`. -/
def place (x : Binary64) : Int := if x.isNegative then -(x.magnitude : Int) else x.magnitude

/-- The comparison of numbers. A NaN compares with nothing. -/
def compare? (x y : Binary64) : Option Ordering :=
  if x.isNaN || y.isNaN then none else some (compare x.place y.place)

/-- Equality of numbers: the zeros are equal and a NaN equals nothing. -/
def same (x y : Binary64) : Bool := x.compare? y == some .eq

/-- The place of a pattern in the total order. -/
def totalPlace (x : Binary64) : Int :=
  if x.isNegative then -(x.magnitude : Int) - 1 else x.magnitude

def totalCompare (x y : Binary64) : Ordering := compare x.totalPlace y.totalPlace

/-- The number nearest to `n / d`, a half going to the even pattern, and the infinity above the
largest number. With `k` the power of two that leaves 53 bits before the point, or the least one
that the format has, the pattern is `(k + 1074) · 2 ^ 52` plus the rounded quotient: the leading bit
of a normal quotient raises the exponent field by the one that is missing. -/
def magnitudeOfRatio (n d : Nat) : Nat :=
  if n = 0 then 0
  else
    let top : Int := (n.log2 : Int) - d.log2
    let short : Bool :=
      if 0 ≤ top then n < d * Nat.pow 2 top.toNat else n * Nat.pow 2 (-top).toNat < d
    let k : Int := max ((if short then top - 1 else top) - 52) (-1074)
    let num := if 0 ≤ k then n else n * Nat.pow 2 (-k).toNat
    let den := if 0 ≤ k then d * Nat.pow 2 k.toNat else d
    let q := num / den
    let r := 2 * (num % den)
    let q := if r > den || (r == den && q % 2 == 1) then q + 1 else q
    min ((k + 1074).toNat * 0x10000000000000 + q) infinite

def ofInt (n : Int) : Binary64 := ofParts (n < 0) (magnitudeOfRatio n.natAbs 1)

def toFloat (x : Binary64) : Float := Float.ofBits x.bits

/-- A NaN with its quiet bit set. -/
def quiet (x : Binary64) : Binary64 := ⟨x.bits ||| 0x0008000000000000⟩

/-- An operation on numbers: the first NaN among the operands is passed on, and an operation without
a result gives `invalid`. -/
def lift (op : Float → Float → Float) (x y : Binary64) : Binary64 :=
  if x.isNaN then x.quiet
  else if y.isNaN then y.quiet
  else
    let r := op x.toFloat y.toFloat
    if r.isNaN then invalid else ⟨r.toBits⟩

instance : Add Binary64 := ⟨lift (· + ·)⟩
instance : Sub Binary64 := ⟨lift (· - ·)⟩
instance : Mul Binary64 := ⟨lift (· * ·)⟩
instance : Div Binary64 := ⟨lift (· / ·)⟩

/-- The sum of a list, added from the left; the sum of nothing is negative zero. -/
def sum (xs : List Binary64) : Binary64 := xs.foldl (· + ·) negativeZero

end Binary64
end TimeTable
