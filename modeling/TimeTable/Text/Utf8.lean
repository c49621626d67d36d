/-!
# UTF-8

Texts as bytes and back. Reading stops at the first byte at which no character begins: overlong forms,
surrogates and numbers beyond the last character are none.
-/

namespace TimeTable

namespace Utf8

def encodeChar (c : Char) : List UInt8 :=
  let n := c.toNat
  if n < 0x80 then [n.toUInt8]
  else if n < 0x800 then [(0xC0 + n / 64).toUInt8, (0x80 + n % 64).toUInt8]
  else if n < 0x10000 then
    [(0xE0 + n / 4096).toUInt8, (0x80 + n / 64 % 64).toUInt8, (0x80 + n % 64).toUInt8]
  else
    [(0xF0 + n / 262144).toUInt8, (0x80 + n / 4096 % 64).toUInt8, (0x80 + n / 64 % 64).toUInt8,
      (0x80 + n % 64).toUInt8]

def encode (s : List Char) : List UInt8 := s.flatMap encodeChar

/-- Whether a byte is one of those behind the first byte of a character. -/
def isTail (b : UInt8) : Bool := 0x80 ≤ b && b < 0xC0

/-- The number in the tail bytes of a character behind that in its first byte. -/
def join (lead : Nat) (tail : List UInt8) : Nat :=
  tail.foldl (fun n b => n * 64 + b.toNat % 64) lead

def pair? (a b : UInt8) : Option Char :=
  if 0xC2 ≤ a && a < 0xE0 && isTail b then some (Char.ofNat (join (a.toNat % 32) [b])) else none

def triple? (a b c : UInt8) : Option Char :=
  let n := join (a.toNat % 16) [b, c]
  if 0xE0 ≤ a && a < 0xF0 && isTail b && isTail c && 0x800 ≤ n && !(0xD800 ≤ n && n < 0xE000) then
    some (Char.ofNat n)
  else none

def quad? (a b c d : UInt8) : Option Char :=
  let n := join (a.toNat % 8) [b, c, d]
  if 0xF0 ≤ a && a < 0xF8 && isTail b && isTail c && isTail d && 0x10000 ≤ n && n < 0x110000 then
    some (Char.ofNat n)
  else none

/-- The text of bytes, or the number of bytes before the first one at which no character begins;
`before` bytes stand before these. -/
def decodeFrom (before : Nat) : List UInt8 → Except Nat (List Char)
  | [] => .ok []
  | a :: s =>
    if a < 0x80 then (decodeFrom (before + 1) s).map (Char.ofNat a.toNat :: ·)
    else match s with
      | [] => .error before
      | b :: s => match pair? a b with
        | some ch => (decodeFrom (before + 2) s).map (ch :: ·)
        | none => match s with
          | [] => .error before
          | c :: s => match triple? a b c with
            | some ch => (decodeFrom (before + 3) s).map (ch :: ·)
            | none => match s with
              | [] => .error before
              | d :: s => match quad? a b c d with
                | some ch => (decodeFrom (before + 4) s).map (ch :: ·)
                | none => .error before

/-- The text of bytes, or the number of bytes before the first one at which no character begins. -/
def decode (s : List UInt8) : Except Nat (List Char) := decodeFrom 0 s

@[simp] theorem encode_nil : encode [] = [] := rfl

@[simp] theorem encode_cons (c : Char) (s : List Char) :
    encode (c :: s) = encodeChar c ++ encode s := rfl

end Utf8
end TimeTable
