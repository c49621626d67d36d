import TimeTable.Binary64.Shortest
import TimeTable.Text.Case

/-!
# Numbers as text

Writing a binary64 number in its shortest decimal form and reading a decimal. What the two written
forms of the library differ in is one record, `FloatStyle`.
-/

namespace TimeTable

/-- How a number is written: where the positional form ends, whether a whole number carries `.0`,
and which of two equally near shortest decimals is taken. -/
structure FloatStyle where
  tie : Tie
  wholeMark : Bool
  positional : Int → Bool

/-- Plain text: always positional, whole numbers without a point, a tie going up. -/
def FloatStyle.plain : FloatStyle := ⟨.up, false, fun _ => true⟩

/-- Data text: positional from `1e-5` to below `1e16`, whole numbers with `.0`, a tie going to the
even digit. -/
def FloatStyle.data : FloatStyle := ⟨.toEven, true, fun p => -5 < p && p ≤ 16⟩

namespace Decimal

def positional (style : FloatStyle) (d : Decimal) : List Char :=
  let n : Int := d.digits.length
  if d.point ≤ 0 then
    '0' :: '.' :: List.replicate (-d.point).toNat '0' ++ d.digits
  else if n ≤ d.point then
    d.digits ++ List.replicate (d.point - n).toNat '0' ++
      (if style.wholeMark then ['.', '0'] else [])
  else
    d.digits.take d.point.toNat ++ '.' :: d.digits.drop d.point.toNat

/-- A decimal with one digit before the point and a signed exponent. -/
def scientific (d : Decimal) : List Char :=
  d.digits.take 1 ++ (if d.digits.length ≤ 1 then [] else '.' :: d.digits.drop 1) ++
    'e' :: Numeral.signed (d.point - 1)

end Decimal

/-- The sign of a number, if it is written. -/
def Binary64.signText (x : Binary64) : List Char := if x.isNegative then ['-'] else []

/-- A finite number in its shortest decimal form. -/
def Binary64.finiteText (style : FloatStyle) (x : Binary64) : List Char :=
  x.signText ++
    (if x.magnitude = 0 then '0' :: (if style.wholeMark then ['.', '0'] else [])
    else
      let d := x.shortest style.tie
      if style.positional d.point then d.positional style else d.scientific)

def Binary64.display (x : Binary64) : List Char :=
  if x.isNaN then ['N', 'a', 'N']
  else if x.isFinite then x.finiteText .plain
  else x.signText ++ ['i', 'n', 'f']

/-- The number nearest to `mantissa · 10 ^ exponent`. Exponents that no digit count can make up for
are cut short. -/
def Binary64.ofScientific (negative : Bool) (mantissa : Nat) (exponent : Int) : Binary64 :=
  let size : Int := mantissa.log2
  .ofParts negative <|
    if mantissa = 0 then 0
    else if 310 < exponent then infinite
    else if exponent * 10 + size * 4 < -12000 then 0
    else magnitudeOfRatio (mantissa * Nat.pow 10 exponent.toNat) (Nat.pow 10 (-exponent).toNat)

/-- An exponent part: nothing, or a letter `e`, an optional sign and digits. -/
def Binary64.readExponent? : List Char → Option Int
  | [] => some 0
  | c :: s => if Text.lowerAscii c = 'e' then Numeral.readInt? s else none

/-- An unsigned decimal: digits with an optional point on either side, at least one digit, and an
optional exponent part. -/
def Binary64.readDecimal? (negative : Bool) (s : List Char) : Option Binary64 :=
  let whole := s.takeWhile Numeral.isDigit
  let rest := s.dropWhile Numeral.isDigit
  let (places, rest) := match rest with
    | '.' :: rest => (rest.takeWhile Numeral.isDigit, rest.dropWhile Numeral.isDigit)
    | _ => ([], rest)
  if whole.isEmpty && places.isEmpty then none
  else
    (readExponent? rest).map fun e =>
      ofScientific negative (Numeral.toNat (whole ++ places)) (e - places.length)

/-- An unsigned number: a decimal, or `inf`, `infinity` or `nan` in any case. -/
def Binary64.readUnsigned? (negative : Bool) (s : List Char) : Option Binary64 :=
  let word := s.map Text.lowerAscii
  if word = ['i', 'n', 'f'] ∨ word = ['i', 'n', 'f', 'i', 'n', 'i', 't', 'y'] then
    some (ofParts negative infinite)
  else if word = ['n', 'a', 'n'] then some (ofParts negative nan.magnitude)
  else readDecimal? negative s

def Binary64.read? : List Char → Option Binary64
  | '-' :: s => readUnsigned? true s
  | '+' :: s => readUnsigned? false s
  | s => readUnsigned? false s

end TimeTable
