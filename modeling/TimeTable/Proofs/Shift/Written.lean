import TimeTable.Column.Temporal
import TimeTable.Proofs.Text.Numeral
import TimeTable.Proofs.Totals

/-!
# Written shifts

A shift is written as counts with units, one behind the other, and with a minus sign in front of all of
them if it goes back. The digits of a count end where its unit begins and a unit ends where the next
digit stands, so a text is taken apart in one way only. No amount is negative: if the amounts of each
part add up to a word, then so do all sums on the way, and what they add up to can be turned around.
-/

namespace TimeTable.Shift

variable {a b : Shift} {part : Part} {unit : Measure} {s t rest : List Char} {n : Int}

/-! ### Parts -/

/-- One shift behind another, part by part. -/
instance : Add Shift := ⟨fun a b => ⟨a.months + b.months, a.days + b.days, a.nanos + b.nanos⟩⟩

lemma eq_of_get (h : ∀ part, a.get part = b.get part) : a = b := by
  obtain ⟨months, days, nanos⟩ := a
  obtain rfl : months = b.months := h .months
  obtain rfl : days = b.days := h .days
  obtain rfl : nanos = b.nanos := h .nanos
  rfl

@[simp] lemma get_add (a b : Shift) (part : Part) : (a + b).get part = a.get part + b.get part := by
  cases part <;> rfl

@[simp] lemma get_negate (a : Shift) (part : Part) : a.negate.get part = -a.get part := by
  cases part <;> rfl

@[simp] lemma get_zero (part : Part) : zero.get part = 0 := by cases part <;> rfl

lemma get_set (shift : Shift) (n : Int) (part other : Part) :
    (shift.set n part).get other = if part = other then n else shift.get other := by
  cases part <;> cases other <;> rfl

/-! ### Units -/

/-- What the sign of a unit stands for: the part of a shift that it belongs to and how much of it. -/
def meaning? : List Char → Option (Part × Nat)
  | ['y'] => some (.months, 12)
  | ['q'] => some (.months, 3)
  | ['m', 'o'] => some (.months, 1)
  | ['w'] => some (.days, 7)
  | ['d'] => some (.days, 1)
  | ['h'] => some (.nanos, 60 * 60 * 1000000000)
  | ['m'] => some (.nanos, 60 * 1000000000)
  | ['s'] => some (.nanos, 1000000000)
  | ['m', 's'] => some (.nanos, 1000000)
  | ['u', 's'] => some (.nanos, 1000)
  | ['n', 's'] => some (.nanos, 1)
  | _ => none

namespace Measure

/-- That a unit is one that shifts are written with. -/
def IsKnown (unit : Measure) : Prop := meaning? unit.sign = some (unit.part, unit.scale)

lemma isKnown_iff : unit.IsKnown ↔ unit ∈ measures := by
  constructor
  · intro h
    obtain ⟨sign, part, scale⟩ := unit
    simp only [IsKnown, meaning?] at h
    split at h <;> cases h <;> simp [measures]
  · revert unit
    change ∀ unit ∈ measures, meaning? unit.sign = some (unit.part, unit.scale)
    decide

/-- A sign is made of letters. -/
lemma IsKnown.sign (h : unit.IsKnown) : unit.sign ≠ [] ∧
    (∀ c ∈ unit.sign, Numeral.isDigit c = false) ∧ Text.Visible unit.sign ∧ 0 < unit.scale := by
  have hall : ∀ unit ∈ measures, unit.sign ≠ [] ∧ unit.sign.all (fun c => !Numeral.isDigit c) ∧
      unit.sign.all (fun c => !Text.isBlank c) ∧ 0 < unit.scale := by decide
  simpa [List.all_eq_true, Text.Visible] using hall unit (isKnown_iff.mp h)

end Measure

/-- That a text is empty or begins with a digit. -/
def EndsSign (rest : List Char) : Prop := ∀ c ∈ rest.head?, Numeral.isDigit c

/-- Of two texts that one text begins with, one begins with the other; so a text without digits is not
longer than what stands before the first digit. -/
lemma prefix_of_endsSign {sign : List Char} (hsign : ∀ c ∈ sign, Numeral.isDigit c = false)
    (hrest : EndsSign rest) (h : sign <+: s ++ rest) : sign <+: s := by
  rcases List.prefix_or_prefix_of_prefix h (List.prefix_append s rest) with hs | ⟨u, rfl⟩
  · exact hs
  · have hu : u <+: rest := (List.prefix_append_right_inj s).mp h
    cases u with
    | nil => rw [List.append_nil]
    | cons c u =>
      obtain ⟨v, rfl⟩ := hu
      have hdigit : Numeral.isDigit c := hrest c rfl
      have hletter : Numeral.isDigit c = false :=
        hsign c (List.mem_append_right _ List.mem_cons_self)
      exact absurd (hletter.symm.trans hdigit) Bool.false_ne_true

/-- A sign is recognized where it ends: no unit before its own in the list has a sign that it begins
with. -/
lemma unit?_append (hunit : unit.IsKnown) (hrest : EndsSign rest) :
    unit? (unit.sign ++ rest) = some (unit, rest) := by
  have hfirst : measures.Pairwise fun earlier later => ¬earlier.sign.isPrefixOf later.sign := by decide
  obtain ⟨earlier, later, hsplit⟩ := List.append_of_mem (Measure.isKnown_iff.mp hunit)
  have hfind : measures.find? (fun other => other.sign.isPrefixOf (unit.sign ++ rest)) = some unit := by
    rw [List.find?_eq_some_iff_append]
    refine ⟨List.isPrefixOf_iff_prefix.mpr (List.prefix_append _ _), earlier, later, hsplit, ?_⟩
    intro other hother
    have hknown : other.IsKnown :=
      Measure.isKnown_iff.mpr (hsplit ▸ List.mem_append_left _ hother)
    rw [hsplit, List.pairwise_append] at hfirst
    have hnot := hfirst.2.2 other hother unit List.mem_cons_self
    rw [Bool.not_eq_true', ← Bool.not_eq_true, List.isPrefixOf_iff_prefix]
    rw [List.isPrefixOf_iff_prefix] at hnot
    exact fun hprefix => hnot (prefix_of_endsSign hknown.sign.2.1 hrest hprefix)
  rw [unit?, hfind, Option.map_some, List.drop_left]

lemma eq_append_of_unit? (h : unit? s = some (unit, rest)) :
    unit.IsKnown ∧ s = unit.sign ++ rest := by
  rw [unit?, Option.map_eq_some_iff] at h
  obtain ⟨found, hfound, hpair⟩ := h
  obtain ⟨rfl, rfl⟩ := Prod.mk.inj hpair
  have hprefix : found.sign.isPrefixOf s := by simpa using List.find?_some hfound
  obtain ⟨t, rfl⟩ := List.isPrefixOf_iff_prefix.mp hprefix
  rw [List.drop_left]
  exact ⟨Measure.isKnown_iff.mpr (List.mem_of_find?_eq_some hfound), rfl⟩

/-! ### Counts -/

/-- A count as it is written: digits and the unit behind them. -/
structure Count where
  digits : List Char
  unit : Measure
  digits_ne_nil : digits ≠ []
  all_isDigit : digits.all Numeral.isDigit
  isKnown : unit.IsKnown

namespace Count

variable (count : Count)

def text : List Char := count.digits ++ count.unit.sign

def number : Nat := Numeral.toNat count.digits

/-- The number in what the unit is measured in. -/
def amount : Int := count.number * count.unit.scale

def shift : Shift := zero.set count.amount count.unit.part

/-- A number written without zeros in front, and a unit. -/
def of (n : Nat) (unit : Measure) (h : unit.IsKnown) : Count :=
  ⟨Numeral.ofNat n, unit, Numeral.ofNat_ne_nil n, Numeral.all_isDigit_ofNat n, h⟩

lemma amount_nonneg : 0 ≤ count.amount :=
  Int.mul_nonneg (Int.natCast_nonneg _) (Int.natCast_nonneg _)

lemma get_shift (part : Part) :
    count.shift.get part = if count.unit.part = part then count.amount else 0 := by
  rw [shift, get_set, get_zero]

lemma get_shift_nonneg (part : Part) : 0 ≤ count.shift.get part := by
  rw [get_shift]
  split
  · exact count.amount_nonneg
  · exact Int.le_refl 0

lemma number_le_amount : count.number ≤ count.amount := by
  have hscale : count.number ≤ count.number * count.unit.scale :=
    Nat.le_mul_of_pos_right _ count.isKnown.sign.2.2.2
  rw [amount]
  exact_mod_cast hscale

lemma visible_text : Text.Visible count.text :=
  (Numeral.visible_of_all_isDigit count.all_isDigit).append count.isKnown.sign.2.2.1

lemma exists_text_eq_cons : ∃ c s, count.text = c :: s ∧ Numeral.isDigit c := by
  obtain ⟨c, ds, hdigits, hc, -⟩ :=
    Numeral.exists_eq_cons_of_all_isDigit count.digits_ne_nil count.all_isDigit
  exact ⟨c, ds ++ count.unit.sign, by rw [text, hdigits, List.cons_append], hc⟩

end Count

section Texts

variable {count : Count} {counts begun : List Count}

def textOf (counts : List Count) : List Char := counts.flatMap Count.text

@[simp] lemma textOf_cons (count : Count) (counts : List Count) :
    textOf (count :: counts) = count.text ++ textOf counts := List.flatMap_cons

@[simp] lemma textOf_append (xs ys : List Count) : textOf (xs ++ ys) = textOf xs ++ textOf ys :=
  List.flatMap_append

lemma visible_textOf (counts : List Count) : Text.Visible (textOf counts) := by
  intro c hc
  obtain ⟨count, -, hmem⟩ := List.mem_flatMap.mp hc
  exact count.visible_text c hmem

lemma endsSign_textOf (counts : List Count) : EndsSign (textOf counts) := by
  cases counts with
  | nil => exact fun c hc => nomatch hc
  | cons count counts =>
    obtain ⟨c, s, htext, hc⟩ := count.exists_text_eq_cons
    intro c' hc'
    rw [textOf_cons, htext] at hc'
    obtain rfl := Option.some.inj hc'
    exact hc

lemma textOf_ne_minus (hne : counts ≠ []) (s : List Char) : textOf counts ≠ '-' :: s := by
  obtain ⟨count, rest, rfl⟩ := List.exists_cons_of_ne_nil hne
  obtain ⟨c, ds, htext, hc⟩ := count.exists_text_eq_cons
  rw [textOf_cons, htext, List.cons_append]
  exact Numeral.cons_ne_of_isDigit hc (by decide)

/-- The first count of a text is read off, its digits first and then its sign. -/
lemma counts?_text_append (count : Count) (hrest : EndsSign rest) :
    counts? (count.text ++ rest) =
      (counts? rest).map ((count.number, count.unit) :: ·) := by
  obtain ⟨hne, hletters, -, -⟩ := count.isKnown.sign
  -- The digits end at the first letter of the unit, so they are read off as a whole.
  have hdigits : ∀ c ∈ count.digits, Numeral.isDigit c := List.all_eq_true.mp count.all_isDigit
  obtain ⟨letter, letters, hsign⟩ := List.exists_cons_of_ne_nil hne
  have hletter : ¬Numeral.isDigit letter := by
    rw [Bool.not_eq_true]
    exact hletters letter (hsign ▸ List.mem_cons_self)
  have htake : (count.text ++ rest).takeWhile Numeral.isDigit = count.digits := by
    rw [Count.text, List.append_assoc, List.takeWhile_append_of_pos hdigits, hsign, List.cons_append,
      List.takeWhile_cons_of_neg hletter, List.append_nil]
  have hdrop : (count.text ++ rest).dropWhile Numeral.isDigit = count.unit.sign ++ rest := by
    rw [Count.text, List.append_assoc, List.dropWhile_append_of_pos hdigits, hsign, List.cons_append,
      List.dropWhile_cons_of_neg hletter]
  have hnumber : Numeral.readNat? count.digits = some count.number :=
    Numeral.readNat?_eq_some_iff.mpr ⟨count.digits_ne_nil, count.all_isDigit, rfl⟩
  obtain ⟨c, s, htext, -⟩ := count.exists_text_eq_cons
  have hshorter : rest.length < (count.text ++ rest).length := by
    rw [htext, List.cons_append, List.length_cons, List.length_append]
    omega
  rw [htext, List.cons_append] at htake hdrop hshorter ⊢
  rw [counts?, htake, hdrop, hnumber, unit?_append count.isKnown hrest]
  exact dif_pos hshorter

lemma counts?_textOf (counts : List Count) :
    counts? (textOf counts) = some (counts.map fun count => (count.number, count.unit)) := by
  induction counts with
  | nil => exact counts?.eq_1
  | cons count counts ih =>
    rw [textOf_cons, counts?_text_append count (endsSign_textOf counts), ih]
    rfl

/-- What is read are counts as they are written. -/
lemma exists_counts_of_counts? {found : List (Nat × Measure)} (h : counts? s = some found) :
    ∃ counts : List Count, s = textOf counts ∧
      found = counts.map fun count => (count.number, count.unit) := by
  fun_induction counts? s generalizing found
  case case1 =>
    obtain rfl := Option.some.inj h
    exact ⟨[], rfl, rfl⟩
  case case2 c s digits n unit rest hunit hnumber hshorter ih =>
    obtain ⟨later, hlater, rfl⟩ := Option.map_eq_some_iff.mp h
    obtain ⟨counts, rfl, rfl⟩ := ih hlater
    obtain ⟨hne, hall, rfl⟩ := Numeral.readNat?_eq_some_iff.mp hnumber
    obtain ⟨hknown, hrest⟩ := eq_append_of_unit? hunit
    refine ⟨⟨digits, unit, hne, hall, hknown⟩ :: counts, ?_, rfl⟩
    rw [textOf_cons, Count.text, List.append_assoc, ← hrest, List.takeWhile_append_dropWhile]
  case case3 => cases h
  case case4 => cases h

/-! ### Sums -/

def amountIn (part : Part) (counts : List Count) : Int :=
  (counts.map fun count => count.shift.get part).sum

def total (counts : List Count) : Shift :=
  ⟨amountIn .months counts, amountIn .days counts, amountIn .nanos counts⟩

@[simp] lemma get_total (counts : List Count) (part : Part) :
    (total counts).get part = amountIn part counts := by
  cases part <;> rfl

@[simp] lemma amountIn_nil (part : Part) : amountIn part [] = 0 := rfl

@[simp] lemma amountIn_cons (part : Part) (count : Count) (counts : List Count) :
    amountIn part (count :: counts) = count.shift.get part + amountIn part counts := by
  rw [amountIn, List.map_cons, List.sum_cons, amountIn]

@[simp] lemma amountIn_append (part : Part) (xs ys : List Count) :
    amountIn part (xs ++ ys) = amountIn part xs + amountIn part ys := by
  rw [amountIn, List.map_append, List.sum_append, amountIn, amountIn]

lemma total_append (xs ys : List Count) : total (xs ++ ys) = total xs + total ys :=
  eq_of_get fun part => by simp

lemma amountIn_nonneg (part : Part) (counts : List Count) : 0 ≤ amountIn part counts := by
  induction counts with
  | nil => exact Int.le_refl 0
  | cons count counts ih =>
    rw [amountIn_cons]
    exact Int.add_nonneg (count.get_shift_nonneg part) ih

lemma amountIn_prefix_le (part : Part) (h : begun <+: counts) :
    amountIn part begun ≤ amountIn part counts := by
  obtain ⟨behind, rfl⟩ := h
  rw [amountIn_append]
  exact Int.le_add_of_nonneg_right (amountIn_nonneg part behind)

lemma amount_le_amountIn (h : count ∈ counts) : count.amount ≤ amountIn count.unit.part counts := by
  obtain ⟨before, behind, rfl⟩ := List.append_of_mem h
  have hbefore := amountIn_nonneg count.unit.part before
  have hbehind := amountIn_nonneg count.unit.part behind
  rw [amountIn_append, amountIn_cons, Count.get_shift, if_pos rfl]
  omega

/-- That no word overflows when counts are added up: no number, no amount and no sum on the way. -/
structure AllFit (counts : List Count) : Prop where
  number : ∀ count ∈ counts, Word.Fits 64 count.number
  amount : ∀ count ∈ counts, Word.Fits 64 count.amount
  sums : ∀ part begun, begun <+: counts → Word.Fits 64 (amountIn part begun)

lemma Count.number_fits (h : Word.Fits 64 count.amount) : Word.Fits 64 count.number :=
  Word.fits_of_nonneg_of_le (Int.natCast_nonneg _) count.number_le_amount h

/-- As nothing that is added is negative, all fits if what it adds up to does. -/
lemma allFit_iff : AllFit counts ↔ ∀ part, Word.Fits 64 (amountIn part counts) := by
  constructor
  · intro h part
    exact h.sums part counts (List.prefix_refl counts)
  · intro h
    have hamount : ∀ count ∈ counts, Word.Fits 64 count.amount := fun count hcount =>
      Word.fits_of_nonneg_of_le count.amount_nonneg (amount_le_amountIn hcount) (h count.unit.part)
    refine ⟨fun count hcount => Count.number_fits (hamount count hcount), hamount,
      fun part begun hbegun => ?_⟩
    exact Word.fits_of_nonneg_of_le (amountIn_nonneg part begun) (amountIn_prefix_le part hbegun) (h part)

lemma add?_eq_some_iff : a.add? count.number count.unit = some b ↔
    Word.Fits 64 count.amount ∧ Word.Fits 64 (a.get count.unit.part + count.amount) ∧
      b = a + count.shift := by
  have hsum : a.set (a.get count.unit.part + count.amount) count.unit.part = a + count.shift := by
    refine eq_of_get fun part => ?_
    rw [get_set, get_add, Count.get_shift]
    split
    · next hpart => rw [hpart]
    · rw [Int.add_zero]
  simp only [add?, Option.bind_eq_bind, Option.bind_eq_some_iff, Word.int64?_eq_some_iff]
  constructor
  · rintro ⟨number, hnumber, amount, hamount, sum, hfits, hnext⟩
    rw [hnumber] at hamount
    rw [hamount] at hfits
    refine ⟨Word.exists_toInt_eq_iff.mp ⟨amount, hamount⟩, Word.exists_toInt_eq_iff.mp ⟨sum, hfits⟩, ?_⟩
    rw [hfits] at hnext
    exact (Option.some.inj hnext).symm.trans hsum
  · rintro ⟨hamount, hfits, rfl⟩
    obtain ⟨number, hnumber⟩ := Word.exists_toInt_eq_iff.mpr (Count.number_fits hamount)
    obtain ⟨amount, hamount⟩ := Word.exists_toInt_eq_iff.mpr hamount
    obtain ⟨sum, hfits⟩ := Word.exists_toInt_eq_iff.mpr hfits
    refine ⟨number, hnumber, amount, ?_, sum, ?_, ?_⟩
    · rw [hnumber, hamount, Count.amount]
    · rw [hfits, hamount]
    · rw [hfits, hsum]

/-- A count is added to a shift that is not negative if and only if the sum fits. -/
lemma add?_eq_some_iff_fits (hstart : ∀ part, 0 ≤ a.get part ∧ Word.Fits 64 (a.get part)) :
    a.add? count.number count.unit = some b ↔
      (∀ part, Word.Fits 64 ((a + count.shift).get part)) ∧ b = a + count.shift := by
  rw [add?_eq_some_iff]
  constructor
  · rintro ⟨-, hfits, rfl⟩
    refine ⟨fun part => ?_, rfl⟩
    rw [get_add, Count.get_shift]
    split
    · next hpart => exact hpart ▸ hfits
    · rw [Int.add_zero]
      exact (hstart part).2
  · rintro ⟨hall, rfl⟩
    have hfits := hall count.unit.part
    rw [get_add, Count.get_shift, if_pos rfl] at hfits
    exact ⟨Word.fits_of_nonneg_of_le count.amount_nonneg (Int.le_add_of_nonneg_left (hstart _).1) hfits,
      hfits, rfl⟩

/-- Counts are added to a shift if the sums fit in the end. -/
lemma foldlM_add?_eq_some_iff (hstart : ∀ part, 0 ≤ a.get part ∧ Word.Fits 64 (a.get part)) :
    (counts.map fun count => (count.number, count.unit)).foldlM
        (fun shift count => shift.add? count.1 count.2) a = some b ↔
      (∀ part, Word.Fits 64 (a.get part + amountIn part counts)) ∧ b = a + total counts := by
  induction counts generalizing a with
  | nil =>
    have hsame : a + total [] = a := eq_of_get fun part => by simp
    simp [hstart, hsame, eq_comm]
  | cons count counts ih =>
    have hsum : a + count.shift + total counts = a + total (count :: counts) :=
      eq_of_get fun part => by simp [Int.add_assoc]
    have hget : ∀ part, (a + count.shift).get part + amountIn part counts =
        a.get part + amountIn part (count :: counts) := fun part => by simp [Int.add_assoc]
    have hnonneg : ∀ part, 0 ≤ (a + count.shift).get part := fun part => by
      rw [get_add]
      exact Int.add_nonneg (hstart part).1 (count.get_shift_nonneg part)
    simp only [← hget, ← hsum, List.map_cons, List.foldlM_cons, Option.bind_eq_bind,
      Option.bind_eq_some_iff, add?_eq_some_iff_fits hstart]
    constructor
    · rintro ⟨next, ⟨hfits, rfl⟩, hrest⟩
      exact (ih fun part => ⟨hnonneg part, hfits part⟩).mp hrest
    -- Counts are never negative: where the total fits, so does every sum on the way.
    · rintro ⟨hall, rfl⟩
      have hfits : ∀ part, Word.Fits 64 ((a + count.shift).get part) := fun part =>
        Word.fits_of_nonneg_of_le (hnonneg part)
          (Int.le_add_of_nonneg_right (amountIn_nonneg part counts)) (hall part)
      exact ⟨_, ⟨hfits, rfl⟩, (ih fun part => ⟨hnonneg part, hfits part⟩).mpr ⟨hall, rfl⟩⟩

/-- Counts without a sign are read as what they add up to. -/
lemma readUnsigned?_textOf (hne : counts ≠ []) :
    readUnsigned? (textOf counts) = some b ↔
      (∀ part, Word.Fits 64 (amountIn part counts)) ∧ b = total counts := by
  have hzero : zero + total counts = total counts := eq_of_get fun part => by simp
  have hstart : ∀ part, 0 ≤ zero.get part ∧ Word.Fits 64 (zero.get part) := fun part => by
    rw [get_zero]
    exact ⟨Int.le_refl 0, Word.fits_toInt 0⟩
  rw [readUnsigned?, counts?_textOf, Option.bind_eq_bind, Option.bind_some, List.isEmpty_map,
    List.isEmpty_eq_false_iff.mpr hne, if_neg Bool.false_ne_true, foldlM_add?_eq_some_iff hstart, hzero]
  simp only [get_zero, Int.zero_add]

lemma readUnsigned?_eq_some_iff : readUnsigned? s = some b ↔
    ∃ counts, counts ≠ [] ∧ s = textOf counts ∧ AllFit counts ∧ b = total counts := by
  constructor
  · intro h
    obtain ⟨found, hfound, hb⟩ := Option.bind_eq_some_iff.mp h
    obtain ⟨counts, rfl, rfl⟩ := exists_counts_of_counts? hfound
    have hne : counts ≠ [] := by
      rintro rfl
      cases hb
    obtain ⟨hfits, rfl⟩ := (readUnsigned?_textOf hne).mp h
    exact ⟨counts, hne, rfl, allFit_iff.mpr hfits, rfl⟩
  · rintro ⟨counts, hne, rfl, hfits, rfl⟩
    exact (readUnsigned?_textOf hne).mpr ⟨allFit_iff.mp hfits, rfl⟩

/-! ### The sign -/

/-- A minus sign for a shift that goes back, and nothing for one that does not. -/
def signOf (back : Bool) : List Char := if back then ['-'] else []

def directed (back : Bool) (a : Shift) : Shift := if back then a.negate else a

/-- That a text is a shift as it is written: a sign and one or more counts, which add up to the shift
without an overflow of words. -/
def IsWritten (s : List Char) (a : Shift) : Prop :=
  ∃ (back : Bool) (counts : List Count), counts ≠ [] ∧ s = signOf back ++ textOf counts ∧
    AllFit counts ∧ a = directed back (total counts)

lemma exists_signOf_append (s : List Char) :
    ∃ back t, s = signOf back ++ t ∧ (back = false → ∀ r, t ≠ '-' :: r) := by
  by_cases h : ∃ r, s = '-' :: r
  · obtain ⟨r, rfl⟩ := h
    exact ⟨true, r, rfl, nofun⟩
  · exact ⟨false, s, rfl, fun _ r hr => h ⟨r, hr⟩⟩

lemma read?_of_trim {back : Bool} (h : Text.trim s = signOf back ++ t)
    (ht : back = false → ∀ r, t ≠ '-' :: r) : read? s = (readUnsigned? t).map (directed back) := by
  rw [read?.eq_def, h]
  cases back with
  | true => rfl
  | false =>
    split
    · next r hr => exact absurd hr (ht rfl r)
    · exact Option.map_id_apply.symm

/-- A shift is read from the texts that it is written as, with blanks around them. -/
lemma read?_eq_some_iff : read? s = some a ↔ IsWritten (Text.trim s) a := by
  constructor
  · intro h
    obtain ⟨back, t, htrim, ht⟩ := exists_signOf_append (Text.trim s)
    rw [read?_of_trim htrim ht, Option.map_eq_some_iff] at h
    obtain ⟨b, hb, rfl⟩ := h
    obtain ⟨counts, hne, rfl, hfits, rfl⟩ := readUnsigned?_eq_some_iff.mp hb
    exact ⟨back, counts, hne, htrim, hfits, rfl⟩
  · rintro ⟨back, counts, hne, htrim, hfits, rfl⟩
    rw [read?_of_trim htrim fun _ => textOf_ne_minus hne, Option.map_eq_some_iff]
    exact ⟨total counts, (readUnsigned?_textOf hne).mpr ⟨allFit_iff.mp hfits, rfl⟩, rfl⟩

/-- What is read can be turned around, as it is not negative before its sign is looked at. -/
lemma fits_of_isWritten (h : IsWritten s a) (part : Part) :
    Word.Fits 64 (a.get part) ∧ Word.Fits 64 (-a.get part) := by
  obtain ⟨back, counts, -, -, hfits, rfl⟩ := h
  have hnonneg := amountIn_nonneg part counts
  have hword := allFit_iff.mp hfits part
  cases back with
  | true =>
    simp only [directed, if_true, get_negate, get_total, Word.fits_64_iff] at hword ⊢
    omega
  | false =>
    simp only [directed, Bool.false_eq_true, if_false, get_total, Word.fits_64_iff] at hword ⊢
    omega

/-- A sign and counts with nothing around them are read as what the counts add up to. -/
lemma read?_signOf_textOf (back : Bool) (hne : counts ≠ []) :
    read? (signOf back ++ textOf counts) = some b ↔
      (∀ part, Word.Fits 64 (amountIn part counts)) ∧ b = directed back (total counts) := by
  have hvisible : Text.Visible (signOf back ++ textOf counts) := by
    refine Text.Visible.append (fun c hc => ?_) (visible_textOf counts)
    cases back with
    | true =>
      obtain rfl := List.mem_singleton.mp hc
      rfl
    | false => exact absurd hc List.not_mem_nil
  rw [read?_of_trim (Text.trim_of_visible hvisible) fun _ => textOf_ne_minus hne, Option.map_eq_some_iff]
  simp only [readUnsigned?_textOf hne]
  constructor
  · rintro ⟨c, ⟨hfits, rfl⟩, rfl⟩
    exact ⟨hfits, rfl⟩
  · rintro ⟨hfits, rfl⟩
    exact ⟨_, ⟨hfits, rfl⟩, rfl⟩

/-- A text without blank ends and without a sign is one of counts, if it is read at all. -/
lemma exists_textOf_of_read? (htrim : Text.trim s = s) (hsign : ∀ r, s ≠ '-' :: r)
    (h : read? s = some a) : ∃ counts, counts ≠ [] ∧ s = textOf counts ∧ a = total counts := by
  have htext : Text.trim s = signOf false ++ s := htrim
  rw [read?_of_trim htext fun _ => hsign, Option.map_eq_some_iff] at h
  obtain ⟨b, hb, rfl⟩ := h
  obtain ⟨counts, hne, hcounts, -, rfl⟩ := readUnsigned?_eq_some_iff.mp hb
  exact ⟨counts, hne, hcounts, rfl⟩

/-- One text behind another is read as the sum of what they are read as, if the sum fits. -/
lemma read?_append (hs : Text.trim s = s) (ht : Text.trim t = t) (hs' : ∀ r, s ≠ '-' :: r)
    (ht' : ∀ r, t ≠ '-' :: r) (ha : read? s = some a) (hb : read? t = some b) (c : Shift) :
    read? (s ++ t) = some c ↔ (∀ part, Word.Fits 64 ((a + b).get part)) ∧ c = a + b := by
  obtain ⟨xs, hxs, rfl, rfl⟩ := exists_textOf_of_read? hs hs' ha
  obtain ⟨ys, -, rfl, rfl⟩ := exists_textOf_of_read? ht ht' hb
  have hread := read?_signOf_textOf (b := c) false (List.append_ne_nil_of_left_ne_nil hxs ys)
  simp only [← get_total, total_append, textOf_append] at hread
  exact hread

end Texts

/-- A shift of months, days and nanoseconds, one of each, as text. -/
def partsText (months days nanos : Nat) : List Char :=
  Numeral.ofNat months ++ ['m', 'o'] ++ Numeral.ofNat days ++ ['d'] ++ Numeral.ofNat nanos ++ ['n', 's']

lemma read?_partsText (back : Bool) {months days nanos : Nat} (hmonths : Word.Fits 64 months)
    (hdays : Word.Fits 64 days) (hnanos : Word.Fits 64 nanos) :
    read? (signOf back ++ partsText months days nanos) =
      some (directed back ⟨months, days, nanos⟩) := by
  let counts : List Count :=
    [.of months ⟨['m', 'o'], .months, 1⟩ rfl, .of days ⟨['d'], .days, 1⟩ rfl,
      .of nanos ⟨['n', 's'], .nanos, 1⟩ rfl]
  have htext : textOf counts = partsText months days nanos := by
    simp [counts, textOf, partsText, Count.text, Count.of]
  have htotal : total counts = ⟨months, days, nanos⟩ := by
    simp [counts, total, Count.get_shift, Count.of, Count.amount, Count.number]
  rw [← htext, ← htotal, read?_signOf_textOf back (List.cons_ne_nil _ _)]
  refine ⟨fun part => ?_, rfl⟩
  rw [← get_total, htotal]
  cases part with
  | months => exact hmonths
  | days => exact hdays
  | nanos => exact hnanos

/-- A shift none of whose parts goes the other way can be written, if the parts fit without a sign. -/
lemma exists_read?_eq (back : Bool)
    (hparts : ∀ part, 0 ≤ (directed back a).get part ∧ Word.Fits 64 ((directed back a).get part)) :
    ∃ s, read? s = some a := by
  have hmonths := Int.toNat_of_nonneg (hparts .months).1
  have hdays := Int.toNat_of_nonneg (hparts .days).1
  have hnanos := Int.toNat_of_nonneg (hparts .nanos).1
  have hread := read?_partsText back (hmonths.symm ▸ (hparts .months).2) (hdays.symm ▸ (hparts .days).2)
    (hnanos.symm ▸ (hparts .nanos).2)
  rw [hmonths, hdays, hnanos] at hread
  refine ⟨_, hread.trans (congrArg some (eq_of_get fun part => ?_))⟩
  cases back <;> cases part <;> simp [directed, negate, get]

/-- A whole number with a unit behind it is read as that many of the unit. -/
lemma read?_ofInt_append_sign (hunit : unit.IsKnown) :
    read? (Numeral.ofInt n ++ unit.sign) = some a ↔
      Word.Fits 64 (n.natAbs * unit.scale) ∧ a = zero.set (n * unit.scale) unit.part := by
  let count := Count.of n.natAbs unit hunit
  have hamount : count.amount = n.natAbs * unit.scale := by
    simp [count, Count.amount, Count.number, Count.of]
  have htext : Numeral.ofInt n ++ unit.sign = signOf (n < 0) ++ textOf [count] := by
    by_cases hneg : n < 0 <;> simp [Numeral.ofInt, signOf, textOf, Count.text, count, Count.of, hneg]
  have hget (part : Part) : amountIn part [count] = if unit.part = part then count.amount else 0 := by
    rw [amountIn_cons, amountIn_nil, Int.add_zero, Count.get_shift]
    rfl
  have htotal : directed (n < 0) (total [count]) = zero.set (n * unit.scale) unit.part := by
    -- The sign is applied to the total, and the only part with an amount is that of the unit.
    refine eq_of_get fun part => ?_
    rw [get_set, get_zero]
    by_cases hneg : n < 0
    · have habs : (n.natAbs : Int) = -n := by omega
      rw [directed, if_pos (decide_eq_true hneg), get_negate, get_total, hget, hamount, habs, Int.neg_mul]
      split
      · exact Int.neg_neg _
      · rfl
    · have habs : (n.natAbs : Int) = n := by omega
      rw [directed, if_neg (by simpa using hneg), get_total, hget, hamount, habs]
  have hfits : (∀ part, Word.Fits 64 (amountIn part [count])) ↔ Word.Fits 64 count.amount := by
    simp only [hget]
    constructor
    · intro h
      simpa using h unit.part
    · intro h part
      split
      · exact h
      · decide
  rw [htext, read?_signOf_textOf _ (List.cons_ne_nil _ _), htotal, hfits, hamount]

/-- A text is read as a shift if and only if, without the blanks around it, it is a sign or none and then
counts with units, which add up without an overflow; what they add up to, turned around behind a minus
sign, is the shift. Any other text is an invalid argument wherever a column is shifted by it. So a sum
that is turned around is never out of bounds, a shift can be written by its three parts, and one text
behind another is read as the sum of both, if it fits. -/
theorem read?_iff_isWritten :
    (∀ s a, read? s = some a ↔ IsWritten (Text.trim s) a) ∧
    (∀ s, (¬∃ a, IsWritten (Text.trim s) a) → ∀ c : Column, ∃ fault,
      c.offsetBy (.ofList s) = .error fault ∧ fault = .invalidShift (.ofList s) ∧
        fault.kind = .invalidArgument) ∧
    (∀ s a, read? s = some a → ∀ part, Word.Fits 64 (a.get part) ∧ Word.Fits 64 (-a.get part)) ∧
    (∀ back, ∀ months days nanos : Nat, Word.Fits 64 months → Word.Fits 64 days → Word.Fits 64 nanos →
      read? (signOf back ++ partsText months days nanos) =
        some (directed back ⟨months, days, nanos⟩)) ∧
    (∀ s t a b, Text.trim s = s → Text.trim t = t → (∀ r, s ≠ '-' :: r) → (∀ r, t ≠ '-' :: r) →
      read? s = some a → read? t = some b →
        ∀ c, read? (s ++ t) = some c ↔ (∀ part, Word.Fits 64 ((a + b).get part)) ∧ c = a + b) := by
  refine ⟨fun s a => read?_eq_some_iff, ?_, ?_, ?_, ?_⟩
  · intro s hnone c
    have hread : read? s = none := by
      rw [Option.eq_none_iff_forall_ne_some]
      exact fun a ha => hnone ⟨a, read?_eq_some_iff.mp ha⟩
    refine ⟨_, ?_, rfl, rfl⟩
    simp only [Column.offsetBy, String.toList_ofList, hread]
  · intro s a ha
    exact fits_of_isWritten (read?_eq_some_iff.mp ha)
  · intro back months days nanos hmonths hdays hnanos
    exact read?_partsText back hmonths hdays hnanos
  · intro s t a b hs ht hs' ht' ha hb
    exact read?_append hs ht hs' ht' ha hb

/-- A shift with blanks around it, one of three parts that goes back, a sum, and a text that ends in a
sign. -/
theorem read?_iff_isWritten_mixed :
    IsWritten (Text.trim " 1y2mo3d4h ".toList) ⟨14, 3, 14400000000000⟩ ∧
    (Word.Fits 64 (5 : Nat) ∧ read? (signOf true ++ partsText 5 5 5) = some ⟨-5, -5, -5⟩) ∧
    (read? ['1', 'm', 'o', '3', 'm'] = some ⟨1, 0, 180000000000⟩ ∧ read? ['2', 'w'] = some ⟨0, 14, 0⟩ ∧
      read? ['1', 'm', 'o', '3', 'm', '2', 'w'] = some ⟨1, 14, 180000000000⟩) ∧
    ((¬∃ a, IsWritten (Text.trim ['1', 'd', '-']) a) ∧
      (Column.mk "t" .date []).offsetBy (.ofList ['1', 'd', '-']) =
        .error (.invalidShift (.ofList ['1', 'd', '-']))) := by
  obtain ⟨hiff, hother, -, hparts, happend⟩ := read?_iff_isWritten
  have hfive : Word.Fits 64 (5 : Nat) := by decide
  have hs : read? ['1', 'm', 'o', '3', 'm'] = some ⟨1, 0, 180000000000⟩ := by decide +kernel
  have ht : read? ['2', 'w'] = some ⟨0, 14, 0⟩ := by decide +kernel
  have hunwritten : ¬∃ a, IsWritten (Text.trim ['1', 'd', '-']) a := by
    rintro ⟨a, ha⟩
    have hnone : read? ['1', 'd', '-'] = none := by decide +kernel
    exact nomatch hnone.symm.trans ((hiff _ a).mpr ha)
  refine ⟨(hiff _ _).mp (by decide +kernel), ⟨hfive, hparts true 5 5 5 hfive hfive hfive⟩,
    ⟨hs, ht, ?_⟩, hunwritten, ?_⟩
  · refine (happend _ _ _ _ (by decide) (by decide) (by simp) (by simp) hs ht _).mpr ⟨?_, rfl⟩
    intro part
    cases part <;> decide
  · obtain ⟨fault, hfault, rfl, -⟩ := hother _ hunwritten (Column.mk "t" .date [])
    exact hfault

end TimeTable.Shift
