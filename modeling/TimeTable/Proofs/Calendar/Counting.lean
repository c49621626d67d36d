import TimeTable.Calendar.Week
import TimeTable.Proofs.Calendar.Months

/-!
# Counting days and weeks

The calendar says which date follows a date, and so which date falls on each day, counted from 1970-01-01
forth and back. The numbers of years, months and days are those of this count. Weeks begin with Monday, and
the first week of an ISO year is the one with January 4; each day is in one of the weeks from there to the
first one of the next year.
-/

namespace TimeTable.Calendar

variable {date other : Date} {day : Int}

def next (date : Date) : Date :=
  if date.day < monthLength date.year date.month then ⟨date.year, date.month, date.day + 1⟩
  else if date.month < 12 then ⟨date.year, date.month + 1, 1⟩
  else ⟨date.year + 1, 1, 1⟩

/-- That a date falls on a day, as it is counted from 1970-01-01, one day after another. -/
inductive FallsOn : Date → Int → Prop
  | epoch : FallsOn ⟨1970, 1, 1⟩ 0
  | later {date : Date} {day : Int} (h : FallsOn date day) : FallsOn (next date) (day + 1)
  | earlier {date : Date} {day : Int} (hdate : isDate date) (h : FallsOn (next date) (day + 1)) :
      FallsOn date day

lemma isDate_first {year : Int} {month : Nat} (hmonth : 1 ≤ month) (hmonth' : month ≤ 12) :
    isDate ⟨year, month, 1⟩ := by
  have hlength : 1 ≤ (monthLengths (isLeap year)).getD (month - 1) 0 :=
    one_le_getD_monthLengths _ (by omega)
  refine isDate_iff.mpr ⟨⟨hmonth, hmonth'⟩, Nat.le_refl 1, ?_⟩
  rwa [monthLength, if_neg (Nat.ne_of_gt hmonth)]

/-- The next date is one of the calendar, one place on in the month or at the beginning of the next month. -/
lemma next_spec (h : isDate date) : isDate (next date) ∧
    (monthIndex (next date) = monthIndex date ∧ (next date).day = date.day + 1 ∨
      monthIndex (next date) = monthIndex date + 1 ∧ (next date).day = 1 ∧
        date.day = monthDays (monthIndex date)) := by
  obtain ⟨⟨hmonth, hmonth'⟩, hday, hlength⟩ := isDate_iff.mp h
  rw [monthDays_monthIndex h, next]
  -- Within a month the day goes on; at its end the month does, and behind December the year.
  split
  · next hlt => exact ⟨isDate_iff.mpr ⟨⟨hmonth, hmonth'⟩, Nat.le_add_left 1 _, hlt⟩, .inl ⟨rfl, rfl⟩⟩
  · next hlast =>
    have hend : date.day = monthLength date.year date.month := by omega
    split
    · next hlt =>
      refine ⟨isDate_first (Nat.le_add_left 1 _) hlt, .inr ⟨?_, rfl, hend⟩⟩
      simp only [monthIndex]
      omega
    · refine ⟨isDate_first (Nat.le_refl 1) (by decide), .inr ⟨?_, rfl, hend⟩⟩
      simp only [monthIndex]
      omega

lemma dayOf_next (h : isDate date) : dayOf (next date) = dayOf date + 1 := by
  obtain ⟨hnext, hplace⟩ := next_spec h
  rw [dayOf_eq hnext, dayOf_eq h]
  rcases hplace with ⟨hindex, hday⟩ | ⟨hindex, hday, hend⟩
  · rw [hindex, hday]
    omega
  · rw [hindex, hday, monthStart_succ, hend]
    omega

lemma next_dateOf (day : Int) : next (dateOf day) = dateOf (day + 1) := by
  have hdate := isDate_dateOf day
  rw [← dateOf_dayOf (next_spec hdate).1, dayOf_next hdate, dayOf_dateOf]

lemma fallsOn_dateOf (day : Int) : FallsOn (dateOf day) day := by
  -- Each day is reached from the first of 1970, forth or back.
  induction day using Int.induction_on with
  | zero => exact .epoch
  | succ n ih =>
    rw [← next_dateOf]
    exact .later ih
  | pred n ih =>
    refine .earlier (isDate_dateOf _) ?_
    rwa [next_dateOf, Int.sub_add_cancel]

/-- The date that falls on a day is the date of the calendar that has the number of the day. -/
lemma fallsOn_iff : FallsOn date day ↔ isDate date ∧ dayOf date = day := by
  constructor
  · intro h
    induction h with
    | epoch => exact ⟨rfl, rfl⟩
    | later _ ih => exact ⟨(next_spec ih.1).1, by rw [dayOf_next ih.1, ih.2]⟩
    | earlier hdate _ ih =>
      have hday := dayOf_next hdate
      exact ⟨hdate, by omega⟩
  · rintro ⟨hdate, rfl⟩
    have hfalls := fallsOn_dateOf (dayOf date)
    rwa [dateOf_dayOf hdate] at hfalls

lemma fallsOn_january (year : Int) (place : Nat) (hplace : 1 ≤ place) (hplace' : place ≤ 31) :
    FallsOn ⟨year, 1, place⟩ (yearStart year + (place - 1)) := by
  have hnone : daysBefore (isLeap year) 1 = 0 := rfl
  have hlength : monthLength year 1 = 31 := rfl
  have hmonth : 1 ≤ 1 ∧ 1 ≤ 12 := by decide
  refine fallsOn_iff.mpr ⟨isDate_iff.mpr ⟨hmonth, hplace, hlength ▸ hplace'⟩, ?_⟩
  simp only [dayOf, hnone]
  omega

lemma yearLength_le (year : Int) : yearLength year ≤ 366 := by
  rw [yearLength]
  split <;> decide

/-- Each day stands in the week of its number, counted from the first one of its ISO year, and this week
begins before the first one of the next ISO year. -/
lemma isoStart_add (day : Int) :
    day = isoStart (isoYear day) + 7 * ((isoWeek day : Int) - 1) + weekday day ∧
      1 ≤ isoWeek day ∧ isoWeek day ≤ 53 ∧
      isoStart (isoYear day) + 7 * ((isoWeek day : Int) - 1) < isoStart (isoYear day + 1) := by
  have hthursday : thursdayOf day % 7 = 0 := by
    simp only [thursdayOf, weekday]
    omega
  have hyear := yearStart_add_dayOfYear (thursdayOf day)
  have hplace := dayOfYear_lt (thursdayOf day)
  have hlength := yearLength_le (isoYear day)
  rw [isoWeek, isoStart, isoStart, yearStart_succ]
  simp only [isoYear, weekday, thursdayOf] at *
  omega

end TimeTable.Calendar
