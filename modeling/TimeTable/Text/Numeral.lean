namespace TimeTable

def Numeral.digit (d : Nat) : Char := Char.ofNat (48 + d)

def Numeral.isDigit (c : Char) : Bool := 48 ≤ c.toNat && c.toNat ≤ 57

def Numeral.value (c : Char) : Nat := c.toNat - 48

/-- The number that a list of digits denotes. -/
def Numeral.toNat (ds : List Char) : Nat := ds.foldl (fun n c => n * 10 + Numeral.value c) 0

/-- The digits of a number, without leading zeros. -/
def Numeral.ofNat (n : Nat) : List Char :=
  if n < 10 then [Numeral.digit n] else Numeral.ofNat (n / 10) ++ [Numeral.digit (n % 10)]

/-- An integer, with a sign if it is negative. -/
def Numeral.ofInt (n : Int) : List Char :=
  if n < 0 then '-' :: Numeral.ofNat n.natAbs else Numeral.ofNat n.natAbs

def Numeral.signed (n : Int) : List Char :=
  (if n < 0 then '-' else '+') :: Numeral.ofNat n.natAbs

/-- The text `s` behind as many copies of `c` as it takes to reach `width` characters. -/
def Numeral.padStart (c : Char) (width : Nat) (s : List Char) : List Char :=
  List.replicate (width - s.length) c ++ s

/-- A number with zeros in front, at least `width` digits. -/
def Numeral.zeroPadded (width n : Nat) : List Char := Numeral.padStart '0' width (Numeral.ofNat n)

/-- An integer with zeros between its sign and its digits, at least `width` characters in all. -/
def Numeral.zeroPaddedInt (width : Nat) (n : Int) : List Char :=
  if n < 0 then '-' :: Numeral.zeroPadded (width - 1) n.natAbs
  else Numeral.zeroPadded width n.natAbs

/-- A number, if the text is one or more ASCII digits. -/
def Numeral.readNat? (s : List Char) : Option Nat :=
  if s.isEmpty || !s.all Numeral.isDigit then none else some (Numeral.toNat s)

/-- An integer: an optional sign and one or more ASCII digits. -/
def Numeral.readInt? : List Char → Option Int
  | '-' :: s => (Numeral.readNat? s).map fun n => -(n : Int)
  | '+' :: s => (Numeral.readNat? s).map fun n => (n : Int)
  | s => (Numeral.readNat? s).map fun n => (n : Int)

/-- A count: an optional plus sign and one or more ASCII digits. -/
def Numeral.readCount? : List Char → Option Nat
  | '+' :: s => Numeral.readNat? s
  | s => Numeral.readNat? s

theorem Numeral.ofNat_ne_nil (n : Nat) : Numeral.ofNat n ≠ [] := by
  rw [Numeral.ofNat]
  split <;> simp

theorem Numeral.value_digit {d : Nat} (h : d < 10) : Numeral.value (Numeral.digit d) = d := by
  match d, h with
  | 0, _ | 1, _ | 2, _ | 3, _ | 4, _ | 5, _ | 6, _ | 7, _ | 8, _ | 9, _ => rfl

theorem Numeral.isDigit_digit {d : Nat} (h : d < 10) : Numeral.isDigit (Numeral.digit d) = true := by
  match d, h with
  | 0, _ | 1, _ | 2, _ | 3, _ | 4, _ | 5, _ | 6, _ | 7, _ | 8, _ | 9, _ => rfl

/-- Reading the digits of a number gives the number. -/
@[simp] theorem Numeral.toNat_ofNat (n : Nat) : Numeral.toNat (Numeral.ofNat n) = n := by
  fun_induction Numeral.ofNat n with
  | case1 n h => simp [Numeral.toNat, Numeral.value_digit h]
  | case2 n h ih =>
    rw [Numeral.toNat] at ih
    rw [Numeral.toNat, List.foldl_append, ih]
    simp only [List.foldl_cons, List.foldl_nil, Numeral.value_digit (Nat.mod_lt n (by omega))]
    omega

theorem Numeral.all_isDigit_ofNat (n : Nat) : (Numeral.ofNat n).all Numeral.isDigit = true := by
  fun_induction Numeral.ofNat n with
  | case1 n h => simp [Numeral.isDigit_digit h]
  | case2 n h ih => simp [ih, Numeral.isDigit_digit (Nat.mod_lt n (by omega : 10 > 0))]

/-- A number that was written is read back. -/
@[simp] theorem Numeral.readNat?_ofNat (n : Nat) : Numeral.readNat? (Numeral.ofNat n) = some n := by
  simp [Numeral.readNat?, Numeral.ofNat_ne_nil, Numeral.all_isDigit_ofNat]

end TimeTable
