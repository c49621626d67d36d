import Mathlib.Tactic.Lemma
import TimeTable.Calendar.Date

namespace TimeTable.Calendar

variable {day : Int}

lemma inRange_iff : inRange day ↔ firstDay ≤ day ∧ day ≤ lastDay := by
  rw [inRange, Bool.and_eq_true, decide_eq_true_eq, decide_eq_true_eq]

/-- A day as its cycle, the century of it, the four years of that, the year of these and the place in
the year. Only the fourth of four years has a place more, and not if it is the last of a century, except
at the end of the cycle. -/
lemma exists_parts (day : Int) : ∃ cycle century quad rest place : Int,
    day + 719162 = 146097 * cycle + 36524 * century + 1461 * quad + 365 * rest + place ∧
    yearOf day = 400 * cycle + 100 * century + 4 * quad + rest + 1 ∧
    (0 ≤ century ∧ century ≤ 3) ∧ (0 ≤ quad ∧ quad ≤ 24) ∧ (0 ≤ rest ∧ rest ≤ 3) ∧ 0 ≤ place ∧
    (place ≤ 364 ∨ place = 365 ∧ rest = 3 ∧ (quad ≤ 23 ∨ century = 3)) := by
  -- The divisions of the definition one after the other, each remainder with a name. Only the last century
  -- of a cycle and the last year of four have a day more, so each bound needs the one before it.
  generalize hn : day + 719162 = n
  generalize hcycle : n / 146097 = cycle
  generalize hinCycle : n % 146097 = inCycle
  generalize hcentury : min (inCycle / 36524) 3 = century
  generalize hinCentury : inCycle - 36524 * century = inCentury
  generalize hquad : inCentury / 1461 = quad
  generalize hinQuad : inCentury % 1461 = inQuad
  generalize hrest : min (inQuad / 365) 3 = rest
  have hyear : yearOf day = 400 * cycle + 100 * century + 4 * quad + rest + 1 := by
    simp only [yearOf, hn, hcycle, hinCycle, hcentury, hinCentury, hquad, hinQuad, hrest]
  have hcentury' : 0 ≤ century ∧ century ≤ 3 ∧ 0 ≤ inCentury ∧
      (inCentury ≤ 36523 ∨ inCentury = 36524 ∧ century = 3) := by omega
  have hquad' : 0 ≤ quad ∧ quad ≤ 24 ∧ 0 ≤ inQuad ∧ (quad = 24 → inQuad ≤ 1459 ∨ century = 3) := by omega
  have hrest' : 0 ≤ rest ∧ rest ≤ 3 ∧ 0 ≤ inQuad - 365 * rest ∧
      (inQuad - 365 * rest ≤ 364 ∨ inQuad = 1460 ∧ rest = 3) := by omega
  exact ⟨cycle, century, quad, rest, inQuad - 365 * rest, by omega, hyear, by omega, by omega, by omega,
    by omega, by omega⟩

lemma yearStart_yearOf_le (day : Int) : yearStart (yearOf day) ≤ day := by
  obtain ⟨cycle, century, quad, rest, place, hday, hyear, hcentury, hquad, hrest, hplace, -⟩ :=
    exists_parts day
  rw [yearStart, hyear]
  omega

lemma yearOf_lt (day : Int) : day < yearStart (yearOf day) + yearLength (yearOf day) := by
  obtain ⟨cycle, century, quad, rest, place, hday, hyear, hcentury, hquad, hrest, hplace, hlast⟩ :=
    exists_parts day
  have hleap : (yearLength (yearOf day) : Int) =
      if yearOf day % 4 = 0 ∧ (yearOf day % 100 ≠ 0 ∨ yearOf day % 400 = 0) then 366 else 365 := by
    rw [yearLength, isLeap]
    simp only [Bool.and_eq_true, Bool.or_eq_true, beq_iff_eq, bne_iff_ne]
    split <;> rfl
  have hplace' : place ≤ 365 := by omega
  rw [hleap, yearStart, hyear]
  -- Whether the year is a leap year decides how far its places go, and both bounds are linear.
  split
  · omega
  · omega

lemma dayOfYear_lt (day : Int) : dayOfYear day < yearLength (yearOf day) := by
  have hle := yearStart_yearOf_le day
  have hlt := yearOf_lt day
  rw [dayOfYear]
  omega

lemma yearStart_add_dayOfYear (day : Int) : yearStart (yearOf day) + dayOfYear day = day := by
  have hle := yearStart_yearOf_le day
  rw [dayOfYear]
  omega

lemma foldr_monthLengths (year : Int) :
    (monthLengths (isLeap year)).foldr (· + ·) 0 = yearLength year := by
  rw [yearLength]
  cases isLeap year with
  | true => rfl
  | false => rfl

/-- A place within consecutive stretches is located in one of them, behind those before it. -/
lemma locate_spec {ls : List Nat} {n : Nat} (h : n < ls.foldr (· + ·) 0) :
    (locate ls n).1 < ls.length ∧ (locate ls n).2 < ls.getD (locate ls n).1 0 ∧
      (ls.take (locate ls n).1).foldr (· + ·) 0 + (locate ls n).2 = n := by
  induction ls generalizing n with
  | nil => exact absurd h (Nat.not_lt_zero n)
  | cons l ls ih =>
    rw [locate]
    split
    · next hn => exact ⟨Nat.zero_lt_succ _, hn, Nat.zero_add n⟩
    · next hn =>
      rw [List.foldr_cons] at h
      obtain ⟨hplace, hrest, hsum⟩ := ih (n := n - l) (by omega)
      refine ⟨Nat.succ_lt_succ hplace, ?_, ?_⟩
      · rw [List.getD_cons_succ]
        exact hrest
      · rw [List.take_succ_cons, List.foldr_cons]
        omega

lemma getD_monthLengths_le (leap : Bool) (month : Nat) : (monthLengths leap).getD month 0 ≤ 31 := by
  have hall : ∀ leap, ∀ l ∈ monthLengths leap, l ≤ 31 := by decide
  rw [List.getD_eq_getElem?_getD]
  cases hmonth : (monthLengths leap)[month]? with
  | none => exact Nat.zero_le 31
  | some l => exact hall leap l (List.mem_of_getElem? hmonth)

/-- The date of a day stands in its year, behind the months before its own. -/
lemma dateOf_spec (day : Int) : (dateOf day).year = yearOf day ∧
    1 ≤ (dateOf day).month ∧ (dateOf day).month ≤ 12 ∧
    1 ≤ (dateOf day).day ∧ (dateOf day).day ≤ monthLength (yearOf day) (dateOf day).month ∧
    daysBefore (isLeap (yearOf day)) (dateOf day).month + (dateOf day).day = dayOfYear day + 1 := by
  obtain ⟨hplace, hrest, hsum⟩ := locate_spec (foldr_monthLengths (yearOf day) ▸ dayOfYear_lt day)
  have hlength : (monthLengths (isLeap (yearOf day))).length = 12 := rfl
  simp only [dateOf, monthLength, daysBefore, Nat.add_sub_cancel]
  refine ⟨trivial, ?_, ?_, ?_, ?_, ?_⟩
  · exact Nat.le_add_left 1 _
  · omega
  · exact Nat.le_add_left 1 _
  · rw [if_neg (Nat.succ_ne_zero _)]
    exact hrest
  · rw [← Nat.add_assoc, hsum]

lemma isDate_dateOf (day : Int) : isDate (dateOf day) := by
  obtain ⟨hyear, hmonth, hmonth', hday, hday', -⟩ := dateOf_spec day
  rw [isDate, hyear]
  simp only [Bool.and_eq_true, decide_eq_true_eq]
  exact ⟨⟨⟨hmonth, hmonth'⟩, hday⟩, hday'⟩

/-- The day of the date of a day is the day. -/
@[simp] lemma dayOf_dateOf (day : Int) : dayOf (dateOf day) = day := by
  obtain ⟨hyear, -, -, -, -, hsum⟩ := dateOf_spec day
  have hday := yearStart_add_dayOfYear day
  rw [dayOf, hyear]
  omega

lemma dayOf?_dateOf (h : inRange day) : dayOf? (dateOf day) = some day := by
  rw [dayOf?, if_pos (isDate_dateOf day), dayOf_dateOf, check, if_pos h]

lemma day_dateOf_le (day : Int) : (dateOf day).day ≤ 31 := by
  obtain ⟨-, hmonth, -, -, hday, -⟩ := dateOf_spec day
  rw [monthLength, if_neg (Nat.ne_of_gt hmonth)] at hday
  exact Nat.le_trans hday (getD_monthLengths_le _ _)

lemma natAbs_yearOf_lt (h : inRange day) : (yearOf day).natAbs < 1000000 := by
  rw [inRange_iff, firstDay, lastDay] at h
  simp only [yearOf]
  omega

end TimeTable.Calendar
