/-!
# Letter case

Names of fields and functions are read in any case. They consist of ASCII letters, so the only
characters whose case matters are those whose small letter is an ASCII one: the ASCII capitals and
the Kelvin sign, whose small letter is `k`.
-/

namespace TimeTable

/-- The small letter of an ASCII capital; any other character is kept. -/
def Text.lowerAscii (c : Char) : Char :=
  if 'A' ≤ c ∧ c ≤ 'Z' then Char.ofNat (c.toNat + 32) else c

/-- The small letter of a character, if that is an ASCII letter; any other character is kept. -/
def Text.lower (c : Char) : Char :=
  if c = '\u212A' then 'k' else Text.lowerAscii c

/-- Equality of two texts up to the case of ASCII letters. -/
def Text.sameLetters (s t : List Char) : Bool :=
  s.map Text.lowerAscii == t.map Text.lowerAscii

/-- A text in small letters, for looking up a name in any case. -/
def Text.lowered (s : String) : String := .ofList (s.toList.map Text.lower)

end TimeTable
