import TimeTable.Binary64.Basic
import TimeTable.Text.Numeral

/-!
# Shortest decimals

The decimal with the fewest digits that reads back as a given number, and among those the nearest
one. A number `m · 2 ^ q` is what every real between its two half-way points reads as, the points
themselves included when `m` is even. For 1, 2, … digits the two neighbours of the number on that
decimal grid are tried; the first grid with a hit has the fewest digits.
-/

namespace TimeTable

/-- A positive decimal `0.d₁d₂… · 10 ^ point`, neither starting nor ending with a zero digit. -/
structure Decimal where
  digits : List Char
  point : Int
deriving DecidableEq, Inhabited

/-- Which of two equally near decimals is taken. -/
inductive Tie where
  | up
  | toEven
deriving DecidableEq

/-- The reals that read as a number: bounds `low` and `high` around `mid`, all over `den`. -/
structure Decimal.Interval where
  low : Nat
  mid : Nat
  high : Nat
  den : Nat
  closed : Bool

namespace Decimal.Interval

/-- The interval of the reals that read as a positive finite number. -/
def ofMagnitude (b : Nat) : Interval :=
  let e := b / 0x10000000000000
  let f := b % 0x10000000000000
  let m := if e = 0 then f else 0x10000000000000 + f
  let q : Int := (max e 1 : Nat) - 1075
  let up := Nat.pow 2 (q - 2).toNat
  let below := if f = 0 ∧ 1 < e then 1 else 2
  ⟨(4 * m - below) * up, 4 * m * up, (4 * m + 2) * up, Nat.pow 2 (2 - q).toNat, m % 2 = 0⟩

/-- Whether `10 ^ e` is at most the number. -/
def reaches (i : Interval) (e : Int) : Bool :=
  Nat.pow 10 e.toNat * i.den ≤ i.mid * Nat.pow 10 (-e).toNat

/-- The power of ten just below the number. The logarithm to base two fixes it up to one step
either way. -/
def power (i : Interval) : Int :=
  let guess := ((i.mid.log2 : Int) - i.den.log2) * 1233 / 4096
  if i.reaches (guess + 1) then guess + 1
  else if i.reaches guess then guess
  else guess - 1

/-- Whether `c · 10 ^ k` lies in the interval. -/
def holds (i : Interval) (c : Nat) (k : Int) : Bool :=
  let point := c * Nat.pow 10 k.toNat * i.den
  let low := i.low * Nat.pow 10 (-k).toNat
  let high := i.high * Nat.pow 10 (-k).toNat
  if i.closed then low ≤ point && point ≤ high else low < point && point < high

/-- The neighbour of the number on the grid of `10 ^ k` that lies in the interval, the nearer one if
both do. -/
def onGrid? (i : Interval) (tie : Tie) (k : Int) : Option Nat :=
  let num := i.mid * Nat.pow 10 (-k).toNat
  let den := i.den * Nat.pow 10 k.toNat
  let c := num / den
  let r := 2 * (num % den)
  let upper : Bool := match compare r den with
    | .lt => false
    | .gt => true
    | .eq => tie == .up || c % 2 == 1
  match i.holds c k, i.holds (c + 1) k with
  | true, true => some (if upper then c + 1 else c)
  | true, false => some c
  | false, true => some (c + 1)
  | false, false => none

/-- The first grid with a hit, from `n` digits on. -/
def search (i : Interval) (tie : Tie) (power : Int) : Nat → Nat → Nat × Int
  | 0, n => (i.mid / i.den, power - n + 1)
  | more + 1, n =>
    let k := power - n + 1
    match i.onGrid? tie k with
    | some c => (c, k)
    | none => search i tie power more (n + 1)

end Decimal.Interval

def Decimal.dropZeros (ds : List Char) : List Char :=
  (ds.reverse.dropWhile (· == '0')).reverse

/-- The shortest decimal of a positive finite number; seventeen digits always suffice. -/
def Binary64.shortest (tie : Tie) (x : Binary64) : Decimal :=
  let i := Decimal.Interval.ofMagnitude x.magnitude
  let (c, k) := i.search tie i.power 17 1
  let ds := Numeral.ofNat c
  ⟨Decimal.dropZeros ds, k + ds.length⟩

end TimeTable
