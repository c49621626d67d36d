import TimeTable.Proofs.Shift.Days
import TimeTable.Proofs.Shift.Instants
import TimeTable.Proofs.Shift.Written

/-!
# Lengths of shifts

A column of instants is shifted by days through the calendar and by hours as a number. Without a zone
every day is as long as 24 hours: a shift without months has a length then, and each instant goes just
this far, whatever the shift is made of. So two shifts, one after the other, go as far as their sum. The
ways differ in what gets lost, as only the days have to stay in range.
-/

namespace TimeTable

variable {a b shift : Shift} {unit : TimeUnit} {v w w' base : Int64} {t moved : DateTime}

/-! ### Lengths -/

/-- The nanoseconds in the days and the fixed part of a shift, all days of the same length. -/
def Shift.length (shift : Shift) : Int := shift.days * 86400000000000 + shift.nanos

@[simp] lemma Shift.length_add (a b : Shift) : (a + b).length = a.length + b.length := by
  change (a.days + b.days) * 86400000000000 + (a.nanos + b.nanos) = _
  rw [length, length]
  omega

/-- Shifts of one direction have a sum of this direction, which can be written if its parts fit. -/
lemma Shift.exists_read?_add {back : Bool} (ha : ∀ part, 0 ≤ (directed back a).get part)
    (hb : ∀ part, 0 ≤ (directed back b).get part)
    (hfits : ∀ part, Word.Fits 64 ((directed back (a + b)).get part)) :
    ∃ s, read? s = some (a + b) := by
  refine exists_read?_eq back fun part => ⟨?_, hfits part⟩
  have hsum : (directed back (a + b)).get part =
      (directed back a).get part + (directed back b).get part := by
    cases back with
    | true => simp only [directed, if_true, get_negate, get_add, Int.neg_add]
    | false => simp only [directed, Bool.false_eq_true, if_false, get_add]
  rw [hsum]
  exact Int.add_nonneg (ha part) (hb part)

lemma Shift.eq_of_read?_days {k : Int} (h : read? (Numeral.ofInt k ++ ['d']) = some a) :
    a = ⟨0, k, 0⟩ := by
  have hunit : Measure.IsKnown ⟨['d'], .days, 1⟩ := rfl
  simpa [zero, set] using ((read?_ofInt_append_sign hunit).mp h).2

lemma Shift.eq_of_read?_hours {k : Int} (h : read? (Numeral.ofInt k ++ ['h']) = some a) :
    a = ⟨0, 0, k * 3600000000000⟩ := by
  have hunit : Measure.IsKnown ⟨['h'], .nanos, 3600000000000⟩ := rfl
  simpa [zero, set] using ((read?_ofInt_append_sign hunit).mp h).2

def DateTime.addDays (t : DateTime) (days : Int) : DateTime := { t with day := t.day + days }

lemma DateTime.nanosSinceEpoch_addDays (t : DateTime) (days : Int) :
    (t.addDays days).nanosSinceEpoch = t.nanosSinceEpoch + days * 86400000000000 := by
  simp only [nanosSinceEpoch, instant, addDays]
  omega

lemma DateTime.InTicks.addDays (h : t.InTicks unit) (days : Int) : (t.addDays days).InTicks unit :=
  ⟨h.isReading, h.nano_lt, h.nanos_dvd⟩

lemma Shift.dateTime?_eq_some_iff (hmonths : shift.months = 0) (hrange : Calendar.inRange t.day) :
    shift.dateTime? t = some moved ↔
      Calendar.inRange (t.day + shift.days) ∧ moved = t.addDays shift.days := by
  rw [dateTime?, day?_of_months_eq_zero hmonths hrange, Calendar.check]
  split
  · next h => simp [h, DateTime.addDays, eq_comm]
  · next h => simp [h]

namespace TimeUnit

lemma eq_of_mul_nanos {m n : Int} (h : m * unit.nanos = n * unit.nanos) : m = n := by
  have hpos : (unit.nanos : Int) ≠ 0 := by cases unit <;> decide
  exact Int.eq_of_mul_eq_mul_right hpos h

/-- Counts that are as many nanoseconds are the same. -/
lemma ticks_eq_of_mul_nanos (h : v.toInt * unit.nanos = w.toInt * unit.nanos) : v = w :=
  Int64.toInt_inj.mp (eq_of_mul_nanos h)

/-- The count of a date and time some days later is as many nanoseconds behind as days have. -/
lemma mul_nanos_of_addDays {days : Int} (hv : unit.toDateTime? v = some t)
    (hrange : Calendar.inRange (t.day + days)) (hbase : unit.ofDateTime? (t.addDays days) = some base) :
    base.toInt * unit.nanos = v.toInt * unit.nanos + days * 86400000000000 := by
  have hlater := toDateTime?_of_ofDateTime? ((inTicks_of_toDateTime? hv).addDays days) hrange hbase
  rw [← nanosSinceEpoch_of_toDateTime? hlater, DateTime.nanosSinceEpoch_addDays,
    nanosSinceEpoch_of_toDateTime? hv]

end TimeUnit

namespace Column

/-! ### Cells -/

/-- That the days of a shift, if there are any, lead from a date and time in range to one in range that
has a count. -/
def DaysReach (shift : Shift) (unit : TimeUnit) (v : Int64) : Prop :=
  shift.days = 0 ∨ ∃ t, unit.toDateTime? v = some t ∧ Calendar.inRange (t.day + shift.days) ∧
    (unit.ofDateTime? (t.addDays shift.days)).isSome

lemma calendarTakes_none_iff (hmonths : shift.months = 0) : CalendarTakes shift unit none v base ↔
    DaysReach shift unit v ∧
      base.toInt * unit.nanos = v.toInt * unit.nanos + shift.days * 86400000000000 := by
  rw [CalendarTakes, DaysReach]
  by_cases hdays : shift.days = 0
  · rw [if_pos ⟨hmonths, hdays⟩, hdays, Int.zero_mul, Int.add_zero]
    constructor
    · rintro rfl
      exact ⟨.inl rfl, rfl⟩
    · rintro ⟨-, hbase⟩
      exact TimeUnit.ticks_eq_of_mul_nanos hbase
  · rw [if_neg (hdays ·.2)]
    constructor
    · rintro ⟨reading, moved, utc, hreading, hmoved, hutc, hbase⟩
      obtain rfl : moved = utc := Except.ok.inj hutc
      rw [TimeUnit.localDateTime?_none, Except.ok.injEq] at hreading
      have hrange := (TimeUnit.tickOf_toDateTime? hreading).2.2
      obtain ⟨hreach, rfl⟩ := (Shift.dateTime?_eq_some_iff hmonths hrange).mp hmoved
      exact ⟨.inr ⟨reading, hreading, hreach, hbase ▸ rfl⟩,
        TimeUnit.mul_nanos_of_addDays hreading hreach hbase⟩
    · rintro ⟨hreach, hbase⟩
      obtain ⟨reading, hreading, hlater, hcount⟩ := hreach.resolve_left hdays
      have hrange := (TimeUnit.tickOf_toDateTime? hreading).2.2
      obtain ⟨base', hbase'⟩ := Option.isSome_iff_exists.mp hcount
      have hnanos := TimeUnit.mul_nanos_of_addDays hreading hlater hbase'
      obtain rfl : base' = base := TimeUnit.ticks_eq_of_mul_nanos (hnanos.trans hbase.symm)
      exact ⟨reading, _, _, (TimeUnit.localDateTime?_none unit v).trans (congrArg Except.ok hreading),
        (Shift.dateTime?_eq_some_iff hmonths hrange).mpr ⟨hlater, rfl⟩, rfl, hbase'⟩

lemma DaysReach.exists_base (h : DaysReach shift unit v) :
    ∃ base : Int64, base.toInt * unit.nanos = v.toInt * unit.nanos + shift.days * 86400000000000 := by
  rcases h with hdays | ⟨t, ht, hrange, hcount⟩
  · exact ⟨v, by rw [hdays, Int.zero_mul, Int.add_zero]⟩
  · obtain ⟨base, hbase⟩ := Option.isSome_iff_exists.mp hcount
    exact ⟨base, TimeUnit.mul_nanos_of_addDays ht hrange hbase⟩

/-- Without a zone a count goes as far as a shift without months is long, if the days lead to a count. -/
lemma shiftTicks_none_eq_ok_some_iff (hmonths : shift.months = 0) (hfine : shift.nanos % unit.nanos = 0) :
    shiftTicks shift unit none v = .ok (some w) ↔
      DaysReach shift unit v ∧ w.toInt * unit.nanos = v.toInt * unit.nanos + shift.length := by
  have hnanos : shift.nanos / unit.nanos * unit.nanos = shift.nanos :=
    Int.ediv_mul_cancel (Int.dvd_of_emod_eq_zero hfine)
  simp only [shiftTicks_eq_ok_some_iff, calendarTakes_none_iff hmonths, Shift.length, ← Int.add_assoc]
  constructor
  · rintro ⟨base, ⟨hreach, hbase⟩, hw⟩
    refine ⟨hreach, ?_⟩
    rw [hw, Int.add_mul, hbase, hnanos]
  · rintro ⟨hreach, hw⟩
    obtain ⟨base, hbase⟩ := hreach.exists_base
    have hsum : w.toInt * unit.nanos = (base.toInt + shift.nanos / unit.nanos) * unit.nanos := by
      rw [hw, Int.add_mul, hbase, hnanos]
    exact ⟨base, ⟨hreach, hbase⟩, TimeUnit.eq_of_mul_nanos hsum⟩

/-- How a cell of a column of instants without a zone is shifted if there are no months. -/
structure MovesFar (shift : Shift) (unit : TimeUnit) (cell out : Option Int64) : Prop where
  missing : cell = none → out = none
  moved : ∀ v, cell = some v → ∀ w, out = some w ↔
    DaysReach shift unit v ∧ w.toInt * unit.nanos = v.toInt * unit.nanos + shift.length

lemma MovesFar.of_movesInstant {cell out : Option Int64} (hmonths : shift.months = 0)
    (hfine : shift.nanos % unit.nanos = 0) (h : MovesInstant shift unit none cell out) :
    MovesFar shift unit cell out := by
  refine ⟨h.missing, ?_⟩
  intro v hv w
  rw [h.moved v hv w, ← shiftTicks_eq_ok_some_iff, shiftTicks_none_eq_ok_some_iff hmonths hfine]

/-! ### Columns -/

variable {text : String} {cells mids outs others : List (Option Int64)} {m n : Int}

/-- A column of instants without a zone can be shifted if there are no months and the fixed part is one
of whole ticks. -/
lemma exists_offsetBy_none (hread : Shift.read? text.toList = some shift) (hmonths : shift.months = 0)
    (hfine : shift.nanos % unit.nanos = 0) (name : String) (cells : List (Option Int64)) :
    ∃ outs, offsetBy text ⟨name, .datetime unit none, cells⟩ = .ok ⟨name, .datetime unit none, outs⟩ ∧
      List.Forall₂ (MovesFar shift unit) cells outs := by
  have hmoves : ∀ v, some v ∈ cells → ∃ out, shiftTicks shift unit none v = .ok out := by
    intro v _
    refine exists_shiftTicks_iff.mpr fun _ => ⟨TimeUnit.not_losesReading_none, ?_⟩
    exact fun reading moved _ _ => ⟨moved, rfl⟩
  obtain ⟨d, hd⟩ : ∃ d, offsetBy text ⟨name, .datetime unit none, cells⟩ = .ok d :=
    (exists_offsetBy_datetime_iff hread hfine).mpr hmoves
  have hcells := hd
  rw [offsetBy_datetime_eq hread hfine, map_eq_ok] at hcells
  obtain ⟨outs, houts, rfl⟩ := hcells
  refine ⟨outs, hd, (mapM_eq_ok_iff.mp houts).imp fun cell out h => ?_⟩
  exact .of_movesInstant hmonths hfine (movesInstant_of_shiftTicks h)

/-- That each count of a column is some nanoseconds behind the count in the same row of another. -/
def RowsLater (unit : TimeUnit) (n : Int) (cells outs : List (Option Int64)) : Prop :=
  ∀ (i : Nat) (w : Int64), outs[i]? = some (some w) →
    ∃ v, cells[i]? = some (some v) ∧ w.toInt * unit.nanos = v.toInt * unit.nanos + n

lemma rowsLater_of_movesFar (h : List.Forall₂ (MovesFar shift unit) cells outs) :
    RowsLater unit shift.length cells outs := by
  intro i w hw
  obtain ⟨cell, hcell, hmove⟩ := exists_getElem?_of_forall₂ h.flip hw
  cases cell with
  | none => exact nomatch hmove.missing rfl
  | some v => exact ⟨v, hcell, ((hmove.moved v rfl w).mp rfl).2⟩

lemma RowsLater.trans (h : RowsLater unit m cells mids) (h' : RowsLater unit n mids outs) :
    RowsLater unit (m + n) cells outs := by
  intro i w hw
  obtain ⟨u, hu, hwu⟩ := h' i w hw
  obtain ⟨v, hv, huv⟩ := h i u hu
  exact ⟨v, hv, by rw [hwu, huv, Int.add_assoc]⟩

/-- That two columns have the same count in each row in which both have one. -/
def Agree (outs others : List (Option Int64)) : Prop :=
  ∀ (i : Nat) (w w' : Int64), outs[i]? = some (some w) → others[i]? = some (some w') → w = w'

/-- Columns that are equally far behind a third one agree. -/
lemma RowsLater.agree (h : RowsLater unit n cells outs) (h' : RowsLater unit n cells others) :
    Agree outs others := by
  intro i w w' hw hw'
  obtain ⟨v, hv, hwv⟩ := h i w hw
  obtain ⟨v', hv', hwv'⟩ := h' i w' hw'
  obtain rfl : v = v' := Option.some.inj (Option.some.inj (hv.symm.trans hv'))
  exact TimeUnit.ticks_eq_of_mul_nanos (hwv.trans hwv'.symm)

/-- Two shifts, one after the other, agree with their sum. -/
lemma agree_add (h : List.Forall₂ (MovesFar a unit) cells mids)
    (h' : List.Forall₂ (MovesFar b unit) mids outs)
    (hboth : List.Forall₂ (MovesFar (a + b) unit) cells others) : Agree outs others := by
  have htwice := (rowsLater_of_movesFar h).trans (rowsLater_of_movesFar h')
  rw [← Shift.length_add] at htwice
  exact htwice.agree (rowsLater_of_movesFar hboth)

/-- Shifts of the same length agree. -/
lemma agree_of_length_eq (hlength : a.length = b.length) (h : List.Forall₂ (MovesFar a unit) cells outs)
    (h' : List.Forall₂ (MovesFar b unit) cells others) : Agree outs others := by
  have hrows := rowsLater_of_movesFar h
  rw [hlength] at hrows
  exact hrows.agree (rowsLater_of_movesFar h')

/-- Without a zone, two shifts without months take a count as far as their sum does, wherever neither way
leads to a missing row. Shifts of one direction have a sum that can be written, if its parts fit. A
number of days takes a count as far as 24 times as many hours do. Rows that are missing stay so. -/
theorem offsetBy_datetime_add (unit : TimeUnit) (name : String) (cells : List (Option Int64)) :
    let column (cells : List (Option Int64)) : Column := ⟨name, .datetime unit none, cells⟩
    (∀ (first second : String) (a b : Shift), Shift.read? first.toList = some a →
      Shift.read? second.toList = some b → a.months = 0 → b.months = 0 →
      a.nanos % unit.nanos = 0 → b.nanos % unit.nanos = 0 →
        ∃ once twice, offsetBy first (column cells) = .ok (column once) ∧
          List.Forall₂ (MovesFar a unit) cells once ∧
          offsetBy second (column once) = .ok (column twice) ∧
          List.Forall₂ (MovesFar b unit) once twice ∧
          ∀ both : String, Shift.read? both.toList = some (a + b) →
            ∃ outs, offsetBy both (column cells) = .ok (column outs) ∧
              List.Forall₂ (MovesFar (a + b) unit) cells outs ∧ Agree twice outs) ∧
    (∀ (back : Bool) (a b : Shift), (∀ part, 0 ≤ (Shift.directed back a).get part ∧
      0 ≤ (Shift.directed back b).get part ∧ Word.Fits 64 ((Shift.directed back (a + b)).get part)) →
        ∃ both : String, Shift.read? both.toList = some (a + b)) ∧
    (∀ (k : Int) (days hours : String), days.toList = Numeral.ofInt k ++ ['d'] →
      hours.toList = Numeral.ofInt (24 * k) ++ ['h'] → (Shift.read? days.toList).isSome →
      (Shift.read? hours.toList).isSome →
        ∃ byDays byHours, offsetBy days (column cells) = .ok (column byDays) ∧
          List.Forall₂ (MovesFar ⟨0, k, 0⟩ unit) cells byDays ∧
          offsetBy hours (column cells) = .ok (column byHours) ∧
          List.Forall₂ (MovesFar ⟨0, 0, 24 * k * 3600000000000⟩ unit) cells byHours ∧
          Agree byDays byHours) := by
  intro column
  refine ⟨?_, ?_, ?_⟩
  · intro first second a b hfirst hsecond hmonths hmonths' hfine hfine'
    obtain ⟨once, honce, hmoves⟩ := exists_offsetBy_none hfirst hmonths hfine name cells
    obtain ⟨twice, htwice, hmoves'⟩ := exists_offsetBy_none hsecond hmonths' hfine' name once
    refine ⟨once, twice, honce, hmoves, htwice, hmoves', ?_⟩
    intro both hboth
    -- Months are absent on both sides, so the lengths of the two shifts can be added.
    have hnone : (a + b).months = 0 := by
      change a.months + b.months = 0
      rw [hmonths, hmonths', Int.add_zero]
    have hsum : (a + b).nanos % unit.nanos = 0 := Int.emod_eq_zero_of_dvd
      (Int.dvd_add (Int.dvd_of_emod_eq_zero hfine) (Int.dvd_of_emod_eq_zero hfine'))
    obtain ⟨outs, houts, hmoves''⟩ := exists_offsetBy_none hboth hnone hsum name cells
    exact ⟨outs, houts, hmoves'', agree_add hmoves hmoves' hmoves''⟩
  · intro back a b hparts
    obtain ⟨s, hs⟩ := Shift.exists_read?_add (fun part => (hparts part).1)
      (fun part => (hparts part).2.1) (fun part => (hparts part).2.2)
    exact ⟨.ofList s, by rwa [String.toList_ofList]⟩
  · intro k days hours hdays hhours hread hread'
    obtain ⟨a, ha⟩ := Option.isSome_iff_exists.mp hread
    obtain ⟨b, hb⟩ := Option.isSome_iff_exists.mp hread'
    obtain rfl := Shift.eq_of_read?_days (hdays ▸ ha)
    obtain rfl := Shift.eq_of_read?_hours (hhours ▸ hb)
    -- Every unit divides the hour.
    have hfine : 24 * k * 3600000000000 % unit.nanos = 0 := by
      cases unit <;> simp only [TimeUnit.nanos, TimeUnit.perSecond] <;> omega
    obtain ⟨byDays, hbyDays, hmoves⟩ := exists_offsetBy_none ha rfl (Int.zero_emod _) name cells
    obtain ⟨byHours, hbyHours, hmoves'⟩ := exists_offsetBy_none hb rfl hfine name cells
    have hlength : Shift.length ⟨0, k, 0⟩ = Shift.length ⟨0, 0, 24 * k * 3600000000000⟩ := by
      simp only [Shift.length]
      omega
    exact ⟨byDays, byHours, hbyDays, hmoves, hbyHours, hmoves', agree_of_length_eq hlength hmoves hmoves'⟩

/-- The last millisecond before 1970 shifted back by a day and a millisecond, then by two weeks and 90
minutes, and by both at once; and back by three days and by 72 hours. -/
theorem offsetBy_datetime_add_back :
    let a : Shift := ⟨0, -1, -1000000⟩
    let b : Shift := ⟨0, -14, -5400000000000⟩
    let column (cells : List (Option Int64)) : Column := ⟨"t", .datetime .milliseconds none, cells⟩
    (Shift.read? "-1d1ms".toList = some a ∧ Shift.read? "-2w90m".toList = some b ∧
      Shift.read? "-15d5400001ms".toList = some (a + b)) ∧
    (∃ once twice outs, offsetBy "-1d1ms" (column [none, some (-1)]) = .ok (column once) ∧
      offsetBy "-2w90m" (column once) = .ok (column twice) ∧
      offsetBy "-15d5400001ms" (column [none, some (-1)]) = .ok (column outs) ∧
      Agree twice outs ∧ outs = [none, some (-1301400002)]) ∧
    (∃ both : String, Shift.read? both.toList = some (a + b)) ∧
    ∃ byDays byHours, offsetBy "-3d" (column [none, some (-1)]) = .ok (column byDays) ∧
      offsetBy "-72h" (column [none, some (-1)]) = .ok (column byHours) ∧ Agree byDays byHours := by
  intro a b column
  have hfirst : Shift.read? "-1d1ms".toList = some a := by decide +kernel
  have hsecond : Shift.read? "-2w90m".toList = some b := by decide +kernel
  have hboth : Shift.read? "-15d5400001ms".toList = some (a + b) := by decide +kernel
  obtain ⟨hadd, hsum, hdays⟩ := offsetBy_datetime_add .milliseconds "t" [none, some (-1)]
  refine ⟨⟨hfirst, hsecond, hboth⟩, ?_, ?_, ?_⟩
  · obtain ⟨once, twice, honce, -, htwice, -, hagree⟩ := hadd _ _ a b hfirst hsecond rfl rfl rfl rfl
    obtain ⟨outs, houts, hmoves, hsame⟩ := hagree _ hboth
    refine ⟨once, twice, outs, honce, htwice, houts, hsame, ?_⟩
    obtain _ | ⟨hmissing, _ | ⟨hmoved, _ | _⟩⟩ := hmoves
    have hreach : DaysReach (a + b) .milliseconds (-1) :=
      .inr ⟨⟨-1, 86399, 999000000⟩, by decide, by decide, by decide⟩
    rw [hmissing.missing rfl, (hmoved.moved _ rfl (-1301400002)).mpr ⟨hreach, by decide⟩]
  · refine hsum true a b fun part => ?_
    cases part <;> decide
  · obtain ⟨byDays, byHours, hbyDays, -, hbyHours, -, hsame⟩ := hdays (-3) "-3d" "-72h"
      (by decide +kernel) (by decide +kernel) (by decide +kernel) (by decide +kernel)
    exact ⟨byDays, byHours, hbyDays, hbyHours, hsame⟩

end Column
end TimeTable
