/-!
# Blank characters

The characters with the property White_Space, and the removal of such characters from the ends of a
text. Texts are lists of characters here, so that statements about them are statements about lists.
-/

namespace TimeTable

/-- The characters with the property White_Space. -/
def Text.isBlank (c : Char) : Bool :=
  let n := c.toNat
  (9 ≤ n && n ≤ 13) || n == 0x20 || n == 0x85 || n == 0xA0 || n == 0x1680 ||
    (0x2000 ≤ n && n ≤ 0x200A) || n == 0x2028 || n == 0x2029 || n == 0x202F || n == 0x205F ||
    n == 0x3000

/-- Drop the blank characters at the start. -/
def Text.trimStart (s : List Char) : List Char := s.dropWhile Text.isBlank

def Text.trimEnd (s : List Char) : List Char := (s.reverse.dropWhile Text.isBlank).reverse

/-- Drop the blank characters at both ends. -/
def Text.trim (s : List Char) : List Char := Text.trimEnd (Text.trimStart s)

@[simp] theorem Text.trim_nil : Text.trim [] = [] := rfl

end TimeTable
