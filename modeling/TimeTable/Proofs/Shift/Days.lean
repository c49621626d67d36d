import TimeTable.Column.Temporal
import TimeTable.Proofs.Calendar.Months
import TimeTable.Proofs.Outcome

/-!
# Shifted days

A column of dates is shifted by the calendar: each date goes to the date some months later, and from
there on by days. It is missing afterwards if one of the two steps leads out of range. Shifting keeps the
order of dates. A shift by months that is taken back gives the date again unless the first step has cut
its place in the month off.
-/

namespace TimeTable

open Calendar

variable {shift : Shift} {day moved : Int} {v w : Int32} {name text back : String}
  {cells : List (Option Int32)}

namespace Shift

lemma day?_eq_some_iff : shift.day? day = some moved ↔ ∃ later,
    MonthsLater (dateOf day) shift.months later ∧ inRange (dayOf later) ∧
      moved = dayOf later + shift.days ∧ inRange moved := by
  have hmonths := monthsLater_addMonths (isDate_dateOf day) shift.months
  simp only [day?, check, Option.bind_eq_bind, Option.bind_eq_some_iff, Option.ite_none_right_eq_some,
    Option.some.injEq]
  constructor
  · rintro ⟨first, ⟨hfirst, rfl⟩, hrange, rfl⟩
    exact ⟨_, hmonths, hfirst, rfl, hrange⟩
  · rintro ⟨later, hlater, hfirst, rfl, hrange⟩
    obtain rfl := hlater.unique hmonths
    exact ⟨_, ⟨hfirst, rfl⟩, hrange, rfl⟩

/-- Without months a day moves by the days alone. -/
lemma day?_of_months_eq_zero (hmonths : shift.months = 0) (hday : inRange day) :
    shift.day? day = check (day + shift.days) := by
  have hfirst : check day = some day := if_pos hday
  rw [day?, hmonths, addMonths_zero (isDate_dateOf day), dayOf_dateOf, hfirst]
  rfl

end Shift

namespace Column

/-- How a cell of a column of dates is shifted: its date goes some months on and from there by days, and
it is missing afterwards if this leads out of range. -/
structure MovesDay (shift : Shift) (cell out : Option Int32) : Prop where
  missing : cell = none → out = none
  moved : ∀ v, cell = some v → inRange v.toInt →
    ∃ later, MonthsLater (dateOf v.toInt) shift.months later ∧
      (∀ w, out = some w ↔ w.toInt = dayOf later + shift.days ∧
        inRange (dayOf later) ∧ inRange (dayOf later + shift.days)) ∧
      (out = none ↔ ¬inRange (dayOf later) ∨ ¬inRange (dayOf later + shift.days))

lemma toInt_ofInt_of_inRange (h : inRange day) : (Int32.ofInt day).toInt = day := by
  rw [inRange_iff, firstDay, lastDay] at h
  exact Int32.toInt_ofInt_of_le (by omega) (by omega)

lemma shiftDay_eq_some_iff : shiftDay shift v = some w ↔ inRange v.toInt ∧ ∃ later,
    MonthsLater (dateOf v.toInt) shift.months later ∧ inRange (dayOf later) ∧
      w.toInt = dayOf later + shift.days ∧ inRange w.toInt := by
  simp only [shiftDay, check, Option.bind_eq_bind, Option.bind_eq_some_iff, Option.ite_none_right_eq_some,
    Option.some.injEq]
  constructor
  · rintro ⟨day, ⟨hrange, rfl⟩, moved, hmoved, rfl⟩
    obtain ⟨later, hlater, hfirst, hday, hlast⟩ := Shift.day?_eq_some_iff.mp hmoved
    rw [toInt_ofInt_of_inRange hlast]
    exact ⟨hrange, later, hlater, hfirst, hday, hlast⟩
  · rintro ⟨hrange, later, hlater, hfirst, hday, hlast⟩
    exact ⟨_, ⟨hrange, rfl⟩, w.toInt,
      Shift.day?_eq_some_iff.mpr ⟨later, hlater, hfirst, hday, hlast⟩, Int32.ofInt_toInt w⟩

lemma movesDay_shiftDay (shift : Shift) (cell : Option Int32) :
    MovesDay shift cell (cell.bind (shiftDay shift)) := by
  refine ⟨?_, ?_⟩
  · rintro rfl
    rfl
  · rintro v rfl hrange
    -- The months move to one date, and what is asked of it and of the days after it is asked once for all.
    obtain ⟨later, hmonths⟩ := exists_monthsLater (isDate_dateOf v.toInt) shift.months
    have hiff : ∀ w, shiftDay shift v = some w ↔ w.toInt = dayOf later + shift.days ∧
        inRange (dayOf later) ∧ inRange (dayOf later + shift.days) := by
      intro w
      rw [shiftDay_eq_some_iff]
      constructor
      · rintro ⟨-, later', hlater', hfirst, hday, hlast⟩
        obtain rfl := hlater'.unique hmonths
        exact ⟨hday, hfirst, hday ▸ hlast⟩
      · rintro ⟨hday, hfirst, hlast⟩
        exact ⟨hrange, later, hmonths, hfirst, hday, hday.symm ▸ hlast⟩
    refine ⟨later, hmonths, hiff, ?_⟩
    rw [Option.bind_some, Option.eq_none_iff_forall_ne_some]
    simp only [ne_eq, hiff]
    constructor
    · intro hnone
      by_cases hfirst : inRange (dayOf later)
      · exact .inr fun hlast => hnone _ ⟨toInt_ofInt_of_inRange hlast, hfirst, hlast⟩
      · exact .inl hfirst
    · rintro hout w ⟨-, hfirst, hlast⟩
      exact hout.elim (· hfirst) (· hlast)

/-- An earlier date does not end up behind a later one. -/
lemma shiftDay_le {v' w' : Int32} (hle : v.toInt ≤ v'.toInt) (hw : shiftDay shift v = some w)
    (hw' : shiftDay shift v' = some w') : w.toInt ≤ w'.toInt := by
  obtain ⟨-, later, hlater, -, hday, -⟩ := shiftDay_eq_some_iff.mp hw
  obtain ⟨-, later', hlater', -, hday', -⟩ := shiftDay_eq_some_iff.mp hw'
  rw [← dayOf_dateOf v.toInt, ← dayOf_dateOf v'.toInt] at hle
  have hmonths := MonthsLater.dayOf_le (isDate_dateOf _) (isDate_dateOf _) hle hlater hlater'
  omega

/-- A shift by months alone is taken back if the place in the month was not cut off. -/
lemma shiftDay_negate_eq_some_iff (hdays : shift.days = 0) (hw : shiftDay shift v = some w) :
    shiftDay shift.negate w = some v ↔
      (dateOf v.toInt).day ≤ monthLength (dateOf w.toInt).year (dateOf w.toInt).month := by
  obtain ⟨hrange, later, hlater, -, hday, hlast⟩ := shiftDay_eq_some_iff.mp hw
  rw [hdays, Int.add_zero] at hday
  have hdate : dateOf w.toInt = later := by rw [hday, dateOf_dayOf hlater.isDate]
  have hback : shift.negate.days = 0 := by rw [Shift.negate, hdays, Int.neg_zero]
  rw [shiftDay_eq_some_iff, hdate, ← hlater.back_iff (isDate_dateOf _), hback]
  simp only [Int.add_zero]
  constructor
  · rintro ⟨-, first, hfirst, -, hv, -⟩
    rw [hv, dateOf_dayOf hfirst.isDate]
    exact hfirst
  · intro hmonths
    have hv : v.toInt = dayOf (dateOf v.toInt) := (dayOf_dateOf _).symm
    exact ⟨hlast, _, hmonths, hv ▸ hrange, hv, hrange⟩

lemma offsetBy_date (hread : Shift.read? text.toList = some shift) (hclock : shift.hasClock = false) :
    offsetBy text ⟨name, .date, cells⟩ =
      .ok ⟨name, .date, cells.map fun cell => cell.bind (shiftDay shift)⟩ := by
  simp only [offsetBy, hread, hclock, Bool.false_eq_true, if_false]

lemma getElem?_shifted {i : Nat}
    (h : (cells.map fun cell => cell.bind (shiftDay shift))[i]? = some (some w)) :
    ∃ v, cells[i]? = some (some v) ∧ shiftDay shift v = some w := by
  rw [List.getElem?_map, Option.map_eq_some_iff] at h
  obtain ⟨cell, hcell, hw⟩ := h
  obtain ⟨v, rfl, hv⟩ := Option.bind_eq_some_iff.mp hw
  exact ⟨v, hcell, hv⟩

/-- A shift without a part of fixed length moves the dates of a column by its months first and then by
its days, and those that this leads out of range are missing. An earlier date does not end up behind a
later one. If the shift is one of months, its opposite gives a date back if and only if the place of the
date is one that the month in between has. -/
theorem offsetBy_date_moves (hread : Shift.read? text.toList = some shift)
    (hclock : shift.hasClock = false) (name : String) (cells : List (Option Int32)) :
    ∃ outs, offsetBy text ⟨name, .date, cells⟩ = .ok ⟨name, .date, outs⟩ ∧
      List.Forall₂ (MovesDay shift) cells outs ∧
      (∀ (i j : Nat) (v v' w w' : Int32), cells[i]? = some (some v) → cells[j]? = some (some v') →
        outs[i]? = some (some w) → outs[j]? = some (some w') → v.toInt ≤ v'.toInt → w.toInt ≤ w'.toInt) ∧
      (∀ back : String, Shift.read? back.toList = some shift.negate → shift.days = 0 →
        ∃ returned, offsetBy back ⟨name, .date, outs⟩ = .ok ⟨name, .date, returned⟩ ∧
          ∀ (i : Nat) (v w : Int32), cells[i]? = some (some v) → outs[i]? = some (some w) →
            (returned[i]? = some (some v) ↔
              (dateOf v.toInt).day ≤ monthLength (dateOf w.toInt).year (dateOf w.toInt).month)) := by
  refine ⟨_, offsetBy_date hread hclock, ?_, ?_, ?_⟩
  · rw [List.forall₂_map_right_iff, List.forall₂_same]
    exact fun cell _ => movesDay_shiftDay shift cell
  · intro i j v v' w w' hv hv' hw hw' hle
    obtain ⟨u, hu, hshift⟩ := getElem?_shifted hw
    obtain ⟨u', hu', hshift'⟩ := getElem?_shifted hw'
    obtain rfl : u = v := Option.some.inj (Option.some.inj (hu.symm.trans hv))
    obtain rfl : u' = v' := Option.some.inj (Option.some.inj (hu'.symm.trans hv'))
    exact shiftDay_le hle hshift hshift'
  · intro back hback hdays
    have hclock' : shift.negate.hasClock = false := by
      simpa [Shift.hasClock, Shift.negate] using hclock
    -- The move back gives a day again where the months do, and there are no days to undo.
    refine ⟨_, offsetBy_date hback hclock', ?_⟩
    intro i v w hv hw
    obtain ⟨u, hu, hshift⟩ := getElem?_shifted hw
    obtain rfl : u = v := Option.some.inj (Option.some.inj (hu.symm.trans hv))
    rw [← shiftDay_negate_eq_some_iff hdays hshift, List.getElem?_map, hw, Option.map_some,
      Option.some.injEq, Option.bind_some]

/-- From the end of January to the leap day, from two days before it, and out of range. -/
theorem offsetBy_date_moves_leap_day :
    let month : Shift := ⟨1, 0, 0⟩
    let outs : List (Option Int32) := [none, some 18321, some 18321, none]
    Shift.read? "1mo".toList = some month ∧ month.hasClock = false ∧
      offsetBy "1mo" ⟨"d", .date, [none, some 18290, some 18292, some 95026236]⟩ =
        .ok ⟨"d", .date, outs⟩ ∧
      Shift.read? "-1mo".toList = some month.negate ∧ month.days = 0 ∧
      ∃ returned, offsetBy "-1mo" ⟨"d", .date, outs⟩ = .ok ⟨"d", .date, returned⟩ ∧
        returned[1]? = some (some 18290) ∧ returned[2]? ≠ some (some 18292) := by
  intro month outs
  have hread : Shift.read? "1mo".toList = some month := by decide +kernel
  have hback : Shift.read? "-1mo".toList = some month.negate := by decide +kernel
  have hcells : [none, some 18290, some 18292, some 95026236].map
      (fun cell => cell.bind (shiftDay month)) = outs := by decide +kernel
  obtain ⟨found, hfound, -, -, hreturn⟩ :=
    offsetBy_date_moves hread rfl "d" [none, some 18290, some 18292, some 95026236]
  have hcolumn := (offsetBy_date hread rfl).symm.trans hfound
  rw [hcells] at hcolumn
  obtain rfl : outs = found := by simpa using hcolumn
  obtain ⟨returned, hreturned, hiff⟩ := hreturn "-1mo" hback rfl
  refine ⟨hread, rfl, hfound, hback, rfl, returned, hreturned, ?_, ?_⟩
  · exact (hiff 1 18290 18321 rfl rfl).mpr (by decide +kernel)
  · exact fun hsame => absurd ((hiff 2 18292 18321 rfl rfl).mp hsame) (by decide +kernel)

end Column
end TimeTable
