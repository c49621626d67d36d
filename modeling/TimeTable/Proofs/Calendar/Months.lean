import Mathlib.Data.Int.Init
import Mathlib.Tactic.Lemma
import TimeTable.Proofs.Calendar.Dates

/-!
# Months

The months are counted through all years, and each begins where the one before it ends. So days are
ordered as the months and the places in them, no two dates have the same day, and a date some months
later stands at its place in that month or on the last day of it. Cutting places off at the end of a
month keeps their order, but a place that is cut off is lost.
-/

namespace TimeTable.Calendar

variable {date other later later' : Date} {index index' k day : Int}

/-- The number of the month of a date, counted through all years. -/
def monthIndex (date : Date) : Int := 12 * date.year + ((date.month : Int) - 1)

def monthStart (index : Int) : Int :=
  yearStart (index / 12) + daysBefore (isLeap (index / 12)) ((index % 12).toNat + 1)

def monthDays (index : Int) : Nat := monthLength (index / 12) ((index % 12).toNat + 1)

lemma yearStart_succ (year : Int) : yearStart (year + 1) = yearStart year + yearLength year := by
  have hleap : (yearLength year : Int) =
      if year % 4 = 0 ∧ (year % 100 ≠ 0 ∨ year % 400 = 0) then 366 else 365 := by
    rw [yearLength, isLeap]
    simp only [Bool.and_eq_true, Bool.or_eq_true, beq_iff_eq, bne_iff_ne]
    split <;> rfl
  simp only [hleap, yearStart]
  split <;> omega

lemma daysBefore_succ (leap : Bool) {month : Nat} (h : month < 12) :
    daysBefore leap (month + 2) = daysBefore leap (month + 1) + (monthLengths leap).getD month 0 := by
  have hall : ∀ leap, ∀ month < 12, daysBefore leap (month + 2) =
      daysBefore leap (month + 1) + (monthLengths leap).getD month 0 := by decide
  exact hall leap month h

lemma daysBefore_end (year : Int) : daysBefore (isLeap year) 13 = yearLength year := by
  rw [yearLength]
  cases isLeap year <;> rfl

/-- A month ends where the next one begins, also at the end of a year. -/
lemma monthStart_succ (index : Int) : monthStart (index + 1) = monthStart index + monthDays index := by
  have hmonth : (index % 12).toNat < 12 := by omega
  have hdays := daysBefore_succ (isLeap (index / 12)) hmonth
  rw [monthStart, monthStart, monthDays, monthLength, if_neg (Nat.succ_ne_zero _), Nat.add_sub_cancel]
  -- Only behind December does the year change, and there the next one starts.
  by_cases hlast : index % 12 = 11
  · have hyear : (index + 1) / 12 = index / 12 + 1 := by omega
    have hfirst : ((index + 1) % 12).toNat = 0 := by omega
    have hlast' : (index % 12).toNat = 11 := by omega
    have hnone : daysBefore (isLeap (index / 12 + 1)) (0 + 1) = 0 := rfl
    rw [hlast', daysBefore_end] at hdays
    rw [hyear, hfirst, yearStart_succ, hnone, hlast', hdays]
    omega
  · have hyear : (index + 1) / 12 = index / 12 := by omega
    have hnext : ((index + 1) % 12).toNat = (index % 12).toNat + 1 := by omega
    rw [hyear, hnext, hdays]
    omega

lemma monthStart_add_monthDays_le (h : index < index') :
    monthStart index + monthDays index ≤ monthStart index' := by
  rw [← monthStart_succ]
  induction index', h using Int.leInduction with
  | base => exact Int.le_refl _
  | succ n _ ih =>
    rw [monthStart_succ n]
    omega

lemma isDate_iff : isDate date ↔ (1 ≤ date.month ∧ date.month ≤ 12) ∧ 1 ≤ date.day ∧
    date.day ≤ monthLength date.year date.month := by
  simp only [isDate, Bool.and_eq_true, decide_eq_true_eq, and_assoc]

lemma year_of_monthIndex (h : isDate date) : monthIndex date / 12 = date.year := by
  have hmonth := (isDate_iff.mp h).1
  rw [monthIndex]
  omega

lemma month_of_monthIndex (h : isDate date) : (monthIndex date % 12).toNat + 1 = date.month := by
  have hmonth := (isDate_iff.mp h).1
  rw [monthIndex]
  omega

lemma monthDays_monthIndex (h : isDate date) :
    monthDays (monthIndex date) = monthLength date.year date.month := by
  rw [monthDays, year_of_monthIndex h, month_of_monthIndex h]

/-- The day of a date is its place in its month. -/
lemma dayOf_eq (h : isDate date) : dayOf date = monthStart (monthIndex date) + date.day - 1 := by
  rw [dayOf, monthStart, year_of_monthIndex h, month_of_monthIndex h]

/-- Dates are ordered by their months, and in a month by their places. -/
lemma dayOf_le_iff (h : isDate date) (hother : isDate other) : dayOf date ≤ dayOf other ↔
    monthIndex date < monthIndex other ∨ monthIndex date = monthIndex other ∧ date.day ≤ other.day := by
  obtain ⟨-, hday, hlength⟩ := isDate_iff.mp h
  obtain ⟨-, hday', hlength'⟩ := isDate_iff.mp hother
  rw [← monthDays_monthIndex h] at hlength
  rw [← monthDays_monthIndex hother] at hlength'
  rw [dayOf_eq h, dayOf_eq hother]
  -- The earlier one of two months ends before the later one starts, whatever the days are.
  rcases Int.lt_trichotomy (monthIndex date) (monthIndex other) with hlt | heq | hgt
  · have hstart := monthStart_add_monthDays_le hlt
    omega
  · rw [heq]
    omega
  · have hstart := monthStart_add_monthDays_le hgt
    omega

lemma eq_of_monthIndex_eq (h : isDate date) (hother : isDate other)
    (hindex : monthIndex date = monthIndex other) (hday : date.day = other.day) : date = other := by
  obtain ⟨year, month, day⟩ := date
  have hyear := year_of_monthIndex h
  have hmonth := month_of_monthIndex h
  rw [hindex, year_of_monthIndex hother] at hyear
  rw [hindex, month_of_monthIndex hother] at hmonth
  obtain rfl : other.year = year := hyear
  obtain rfl : other.month = month := hmonth
  obtain rfl : day = other.day := hday
  rfl

/-- No two dates have the same day. -/
lemma eq_of_dayOf_eq (h : isDate date) (hother : isDate other) (hday : dayOf date = dayOf other) :
    date = other := by
  have hle := (dayOf_le_iff h hother).mp (Int.le_of_eq hday)
  have hge := (dayOf_le_iff hother h).mp (Int.le_of_eq hday.symm)
  exact eq_of_monthIndex_eq h hother (by omega) (by omega)

/-- The date of the day of a date is the date. -/
lemma dateOf_dayOf (h : isDate date) : dateOf (dayOf date) = date :=
  eq_of_dayOf_eq (isDate_dateOf _) h (dayOf_dateOf _)

/-- That a date is another one some months later, or earlier if their number is negative: in the month
so many months on, at the same place or, if this month is too short for it, on its last day. -/
structure MonthsLater (date : Date) (k : Int) (later : Date) : Prop where
  isDate : isDate later
  monthIndex_eq : monthIndex later = monthIndex date + k
  day_eq : later.day = min date.day (monthLength later.year later.month)

lemma one_le_getD_monthLengths (leap : Bool) {month : Nat} (h : month < 12) :
    1 ≤ (monthLengths leap).getD month 0 := by
  have hall : ∀ leap, ∀ month < 12, 1 ≤ (monthLengths leap).getD month 0 := by decide
  exact hall leap month h

lemma monthsLater_addMonths (h : isDate date) (k : Int) : MonthsLater date k (addMonths date k) := by
  obtain ⟨-, hday, -⟩ := isDate_iff.mp h
  have hindex : monthIndex (addMonths date k) = monthIndex date + k := by
    simp only [monthIndex, addMonths]
    omega
  refine ⟨isDate_iff.mpr ⟨?_, ?_, ?_⟩, hindex, rfl⟩
  · simp only [addMonths]
    omega
  · refine Nat.le_min.mpr ⟨hday, ?_⟩
    rw [monthLength, if_neg (Nat.succ_ne_zero _), Nat.add_sub_cancel]
    exact one_le_getD_monthLengths _ (by omega)
  · exact Nat.min_le_right _ _

lemma exists_monthsLater (h : isDate date) (k : Int) : ∃ later, MonthsLater date k later :=
  ⟨_, monthsLater_addMonths h k⟩

namespace MonthsLater

lemma unique (h : MonthsLater date k later) (h' : MonthsLater date k later') : later = later' := by
  have hindex : monthIndex later = monthIndex later' := h.monthIndex_eq.trans h'.monthIndex_eq.symm
  refine eq_of_monthIndex_eq h.isDate h'.isDate hindex ?_
  rw [h.day_eq, h'.day_eq, ← monthDays_monthIndex h.isDate, ← monthDays_monthIndex h'.isDate, hindex]

/-- Moving by months keeps the order of dates. -/
lemma dayOf_le (hdate : Calendar.isDate date) (hother : Calendar.isDate other)
    (hle : dayOf date ≤ dayOf other) (h : MonthsLater date k later) (h' : MonthsLater other k later') :
    dayOf later ≤ dayOf later' := by
  rw [dayOf_le_iff h.isDate h'.isDate, h.monthIndex_eq, h'.monthIndex_eq]
  rcases (dayOf_le_iff hdate hother).mp hle with hlt | ⟨heq, hday⟩
  · exact .inl (Int.add_lt_add_right hlt k)
  · have hindex : monthIndex later = monthIndex later' := by
      rw [h.monthIndex_eq, h'.monthIndex_eq, heq]
    refine .inr ⟨by rw [heq], ?_⟩
    rw [h.day_eq, h'.day_eq, ← monthDays_monthIndex h.isDate, ← monthDays_monthIndex h'.isDate, hindex]
    omega

/-- A date moved there and back is the date if and only if its place was not cut off. -/
lemma back_iff (hdate : Calendar.isDate date) (h : MonthsLater date k later) :
    MonthsLater later (-k) date ↔ date.day ≤ monthLength later.year later.month := by
  have hindex := h.monthIndex_eq
  have hday := h.day_eq
  have hlength := (isDate_iff.mp hdate).2.2
  constructor
  · intro hback
    have hday' := hback.day_eq
    omega
  · intro hle
    exact ⟨hdate, by omega, by omega⟩

end MonthsLater

lemma addMonths_zero (h : isDate date) : addMonths date 0 = date := by
  refine ((monthsLater_addMonths h 0).unique ⟨h, (Int.add_zero _).symm, ?_⟩)
  exact (Nat.min_eq_left (isDate_iff.mp h).2.2).symm

end TimeTable.Calendar
