import TimeTable.Proofs.Column.WallClock
import TimeTable.Proofs.Totals

/-!
# Shifted instants

A column of instants is shifted in two steps. The calendar part moves the reading of the clock, and what
this leads to is in range or else missing. The fixed part is then added to the count as a number, and it
has to fit the word but is not held to the range. So the results are in range if there is no fixed part,
or if the words of the unit do not reach out of the range, as those of nanoseconds; in the other units the
fixed part can lead to counts that stand for no date and time.
-/

namespace TimeTable

variable {shift : Shift} {unit : TimeUnit} {zone : Option Zone} {v w base : Int64}
  {t moved utc : DateTime}

/-! ### Counts in range -/

namespace TimeUnit

/-- A count is in range by the day it falls on. -/
lemma toDateTime?_isSome_iff : (unit.toDateTime? w).isSome ↔
    Calendar.inRange (w.toInt * unit.nanos / 86400000000000) := by
  have hday : w.toInt / unit.perSecond / 86400 = w.toInt * unit.nanos / 86400000000000 := by
    cases unit with
    | nanoseconds => simp only [nanos, perSecond]; omega
    | microseconds => simp only [nanos, perSecond]; omega
    | milliseconds => simp only [nanos, perSecond]; omega
  rw [toDateTime?, DateTime.check, DateTime.ofInstant, hday]
  split
  · next h => simp [h]
  · next h => simp [h]

/-- The words of nanoseconds do not reach out of the range. -/
lemma toDateTime?_isSome_nanoseconds (w : Int64) : (nanoseconds.toDateTime? w).isSome := by
  have hlow := w.le_toInt
  have hhigh := w.toInt_lt
  rw [toDateTime?_isSome_iff, Calendar.inRange_iff, Calendar.firstDay, Calendar.lastDay]
  simp only [nanos, perSecond]
  omega

/-- A count stands for a date and time of as many nanoseconds as it has ticks. -/
lemma nanosSinceEpoch_of_toDateTime? (h : unit.toDateTime? v = some t) :
    t.nanosSinceEpoch = v.toInt * unit.nanos := by
  have htick := (tickOf_toDateTime? h).1
  have hdvd := (inTicks_of_toDateTime? h).nanos_dvd
  rw [tickOf, DateTime.nanosSinceEpoch] at htick
  rw [DateTime.nanosSinceEpoch]
  cases unit with
  | nanoseconds => simp only [nanos, perSecond] at htick hdvd ⊢; omega
  | microseconds => simp only [nanos, perSecond] at htick hdvd ⊢; omega
  | milliseconds => simp only [nanos, perSecond] at htick hdvd ⊢; omega

end TimeUnit

/-- The instant that is taken for a reading is one of whole ticks and in range. -/
lemma DateTime.inTicks_of_toUtc (hticks : moved.InTicks unit) (hrange : Calendar.inRange moved.day)
    (h : moved.toUtc zone = .ok utc) : utc.InTicks unit ∧ Calendar.inRange utc.day := by
  cases zone with
  | none =>
    obtain rfl : moved = utc := Except.ok.inj h
    exact ⟨hticks, hrange⟩
  | some zone =>
    rw [toUtc_eq_ok_iff, Zone.ofLocal?_eq_some_iff hticks.isReading] at h
    obtain ⟨instant, -, rfl, hinstant⟩ := h
    exact ⟨⟨isReading_ofInstant _ _, hticks.nano_lt, hticks.nanos_dvd⟩, hinstant⟩

namespace Column

/-! ### The calendar part -/

/-- Where the calendar part of a shift takes a count: nowhere else if there is none, and otherwise to the
count of the instant that is taken for the shifted reading of the clock. -/
def CalendarTakes (shift : Shift) (unit : TimeUnit) (zone : Option Zone) (v base : Int64) : Prop :=
  if shift.months = 0 ∧ shift.days = 0 then base = v
  else ∃ reading moved utc, unit.localDateTime? zone v = .ok (some reading) ∧
    shift.dateTime? reading = some moved ∧ moved.toUtc zone = .ok utc ∧ unit.ofDateTime? utc = some base

/-- The calendar part does not lead out of range. -/
lemma CalendarTakes.inRange (h : CalendarTakes shift unit zone v base)
    (hv : (unit.toDateTime? v).isSome) : ∃ t, unit.toDateTime? base = some t := by
  rw [CalendarTakes] at h
  split at h
  · next hnone =>
    obtain rfl := h
    exact Option.isSome_iff_exists.mp hv
  · obtain ⟨reading, moved, utc, hreading, hmoved, hutc, hbase⟩ := h
    obtain ⟨hticks, hrange⟩ := inTicks_of_shift (TimeUnit.inTicks_of_localDateTime? hreading) hmoved
    obtain ⟨hticks', hrange'⟩ := DateTime.inTicks_of_toUtc hticks hrange hutc
    exact ⟨utc, TimeUnit.toDateTime?_of_ofDateTime? hticks' hrange' hbase⟩

/-- What a shift makes of a count: a count as far off as the fixed part is long if there is no calendar
part, and else nothing if the calendar part leads out of range, or a count as far from the one of the
instant that is taken for the shifted reading. -/
lemma shiftTicks_eq_ok_iff {out : Option Int64} : shiftTicks shift unit zone v = .ok out ↔
    if shift.months = 0 ∧ shift.days = 0 then Word.int64? (v.toInt + shift.nanos / unit.nanos) = out
    else ∃ read, unit.localDateTime? zone v = .ok read ∧ (read.bind shift.dateTime? = none ∧ none = out ∨
      ∃ moved utc, read.bind shift.dateTime? = some moved ∧ moved.toUtc zone = .ok utc ∧
        (unit.ofDateTime? utc).bind (fun n => Word.int64? (n.toInt + shift.nanos / unit.nanos)) = out) := by
  rw [shiftTicks]
  split
  · rw [Except.ok.injEq]
  · rw [bind_eq_ok]
    refine exists_congr fun read => and_congr_right fun _ => ?_
    cases read.bind shift.dateTime? with
    | none => simp
    | some moved => simp

/-- A count is shifted by the calendar first, and the fixed part is added to what this leads to. -/
lemma shiftTicks_eq_ok_some_iff : shiftTicks shift unit zone v = .ok (some w) ↔
    ∃ base, CalendarTakes shift unit zone v base ∧ w.toInt = base.toInt + shift.nanos / unit.nanos := by
  rw [shiftTicks_eq_ok_iff]
  simp only [CalendarTakes]
  split
  · simp [Word.int64?_eq_some_iff]
  · simp only [reduceCtorEq, and_false, false_or, Option.bind_eq_some_iff, Word.int64?_eq_some_iff]
    constructor
    · rintro ⟨-, hread, moved, utc, ⟨reading, rfl, hmoved⟩, hutc, base, hbase, hw⟩
      exact ⟨base, ⟨reading, moved, utc, hread, hmoved, hutc, hbase⟩, hw⟩
    · rintro ⟨base, ⟨reading, moved, utc, hread, hmoved, hutc, hbase⟩, hw⟩
      exact ⟨some reading, hread, moved, utc, ⟨reading, rfl, hmoved⟩, hutc, base, hbase, hw⟩

/-- A shift fails on a count only if there is a calendar part, and the reading is lost or no instant can be
taken for the shifted reading. -/
lemma exists_shiftTicks_iff : (∃ out, shiftTicks shift unit zone v = .ok out) ↔
    (¬(shift.months = 0 ∧ shift.days = 0) → ¬unit.LosesReading zone v ∧
      ∀ reading moved, unit.localDateTime? zone v = .ok (some reading) →
        shift.dateTime? reading = some moved → ∃ utc, moved.toUtc zone = .ok utc) := by
  simp only [shiftTicks_eq_ok_iff, ← TimeUnit.exists_localDateTime?_iff]
  constructor
  -- A shift over the calendar needs a reading, and the moved reading needs an instant.
  · rintro ⟨out, hout⟩ hcalendar
    rw [if_neg hcalendar] at hout
    obtain ⟨read, hread, hout⟩ := hout
    refine ⟨⟨read, hread⟩, ?_⟩
    intro reading moved hreading hmoved
    obtain rfl := Except.ok.inj (hread.symm.trans hreading)
    rw [Option.bind_some, hmoved] at hout
    obtain ⟨hnone, -⟩ | ⟨moved', utc, hmoved', hutc, -⟩ := hout
    · cases hnone
    · obtain rfl := Option.some.inj hmoved'
      exact ⟨utc, hutc⟩
  · intro h
    split
    · exact ⟨_, rfl⟩
    · next hcalendar =>
      obtain ⟨⟨read, hread⟩, hshifted⟩ := h hcalendar
      -- A reading that does not exist, or that no month or day later is, gives null without asking the
      -- zone.
      cases hbind : read.bind shift.dateTime? with
      | none => exact ⟨none, read, hread, .inl ⟨hbind, rfl⟩⟩
      | some moved =>
        obtain ⟨reading, rfl, hmoved⟩ := Option.bind_eq_some_iff.mp hbind
        obtain ⟨utc, hutc⟩ := hshifted reading moved hread hmoved
        exact ⟨_, _, hread, .inr ⟨moved, utc, hbind, hutc, rfl⟩⟩

/-! ### Cells -/

variable {text name : String} {cell out : Option Int64} {cells : List (Option Int64)} {d : Column}

/-- How a cell of a column of instants is shifted. -/
structure MovesInstant (shift : Shift) (unit : TimeUnit) (zone : Option Zone) (cell out : Option Int64) :
    Prop where
  missing : cell = none → out = none
  moved : ∀ v, cell = some v → ∀ w, out = some w ↔
    ∃ base, CalendarTakes shift unit zone v base ∧ w.toInt = base.toInt + shift.nanos / unit.nanos

lemma movesInstant_of_shiftTicks
    (h : (overCell (shiftTicks shift unit zone) cell).map Option.join = .ok out) :
    MovesInstant shift unit zone cell out := by
  constructor
  · rintro rfl
    exact (Except.ok.inj h).symm
  · rintro v rfl w
    obtain ⟨joined, hjoined, hout⟩ := map_eq_ok.mp h
    obtain ⟨shifted, hshifted, rfl⟩ := map_eq_ok.mp hjoined
    obtain rfl : shifted = out := hout
    rw [← shiftTicks_eq_ok_some_iff, hshifted, Except.ok.injEq]

lemma exists_shifted_iff :
    (∃ out, (overCell (shiftTicks shift unit zone) cell).map Option.join = .ok out) ↔
      ∀ v, cell = some v → ∃ out, shiftTicks shift unit zone v = .ok out := by
  cases cell with
  | none => exact iff_of_true ⟨none, rfl⟩ nofun
  | some v =>
    simp only [overCell, map_eq_ok, Option.some.injEq, forall_eq']
    constructor
    · rintro ⟨-, -, ⟨out, hout, -⟩, -⟩
      exact ⟨out, hout⟩
    · rintro ⟨out, hout⟩
      exact ⟨_, _, ⟨out, hout, rfl⟩, rfl⟩

/-- A column of instants is shifted cell by cell, if the fixed part is one of whole ticks. -/
lemma offsetBy_datetime_eq (hread : Shift.read? text.toList = some shift)
    (hfine : shift.nanos % unit.nanos = 0) :
    offsetBy text ⟨name, .datetime unit zone, cells⟩ =
      (cells.mapM fun cell => (overCell (shiftTicks shift unit zone) cell).map Option.join).map
        (Column.mk name (.datetime unit zone)) := by
  simp only [offsetBy, hread]
  rw [if_neg (not_not_intro hfine), ← shiftTicks_cellwise]
  cases mapCells (shiftTicks shift unit zone) cells <;> rfl

lemma exists_offsetBy_datetime_iff (hread : Shift.read? text.toList = some shift)
    (hfine : shift.nanos % unit.nanos = 0) :
    (∃ d, offsetBy text ⟨name, .datetime unit zone, cells⟩ = .ok d) ↔
      ∀ v, some v ∈ cells → ∃ out, shiftTicks shift unit zone v = .ok out := by
  have hcolumn : (∃ d, offsetBy text ⟨name, .datetime unit zone, cells⟩ = .ok d) ↔
      ∃ outs, cells.mapM (fun cell => (overCell (shiftTicks shift unit zone) cell).map Option.join) =
        .ok outs := by
    simp only [offsetBy_datetime_eq hread hfine, map_eq_ok]
    constructor
    · rintro ⟨d, outs, houts, -⟩
      exact ⟨outs, houts⟩
    · rintro ⟨outs, houts⟩
      exact ⟨_, outs, houts, rfl⟩
  rw [hcolumn, exists_mapM_eq_ok_iff]
  simp only [exists_shifted_iff]
  constructor
  · intro h v hv
    exact h _ hv v rfl
  · rintro h cell hcell v rfl
    exact h v hcell

/-- What a count is shifted to is as far from where the calendar part takes it as the fixed part is long,
so it is in range if and only if the fixed part does not lead out of it. -/
lemma MovesInstant.inRange_iff (h : MovesInstant shift unit zone (some v) (some w))
    (hfine : shift.nanos % unit.nanos = 0) (hv : (unit.toDateTime? v).isSome) :
    ∃ base t, CalendarTakes shift unit zone v base ∧ unit.toDateTime? base = some t ∧
      w.toInt * unit.nanos = t.nanosSinceEpoch + shift.nanos ∧
      ((unit.toDateTime? w).isSome ↔
        Calendar.inRange ((t.nanosSinceEpoch + shift.nanos) / 86400000000000)) := by
  obtain ⟨base, hbase, hw⟩ := (h.moved v rfl w).mp rfl
  obtain ⟨t, ht⟩ := hbase.inRange hv
  have hnanos : w.toInt * unit.nanos = t.nanosSinceEpoch + shift.nanos := by
    rw [TimeUnit.nanosSinceEpoch_of_toDateTime? ht, hw, Int.add_mul,
      Int.ediv_mul_cancel (Int.dvd_of_emod_eq_zero hfine)]
  exact ⟨base, t, hbase, ht, hnanos, by rw [TimeUnit.toDateTime?_isSome_iff, hnanos]⟩

lemma MovesInstant.isSome (h : MovesInstant shift unit zone (some v) (some w))
    (hv : (unit.toDateTime? v).isSome) (hfixed : unit = .nanoseconds ∨ shift.nanos = 0) :
    (unit.toDateTime? w).isSome := by
  rcases hfixed with rfl | hnone
  · exact TimeUnit.toDateTime?_isSome_nanoseconds w
  · obtain ⟨base, hbase, hw⟩ := (h.moved v rfl w).mp rfl
    rw [hnone, Int.zero_ediv, Int.add_zero, Int64.toInt_inj] at hw
    obtain ⟨t, ht⟩ := hbase.inRange hv
    rw [hw, ht]
    rfl

/-! ### Columns -/

/-- A column of instants can be shifted if the fixed part is one of whole ticks and, should there be a
calendar part, no reading is lost and there is an instant for every reading that this part leads to in
range. A count that the calendar part leads out of range is missing then. To any other the fixed part is
added, and what this gives is missing only if it does not fit the word; it is in range if there is no fixed
part or the unit is the nanosecond, and else if and only if the fixed part does not lead out of the range. -/
theorem offsetBy_datetime_inRange_iff (hread : Shift.read? text.toList = some shift) (unit : TimeUnit)
    (zone : Option Zone) (name : String) (cells : List (Option Int64)) :
    let c : Column := ⟨name, .datetime unit zone, cells⟩
    ((∃ d, c.offsetBy text = .ok d) ↔ shift.nanos % unit.nanos = 0 ∧
      ∀ v, some v ∈ cells → ¬(shift.months = 0 ∧ shift.days = 0) → ¬unit.LosesReading zone v ∧
        ∀ reading moved, unit.localDateTime? zone v = .ok (some reading) →
          shift.dateTime? reading = some moved → ∃ utc, moved.toUtc zone = .ok utc) ∧
    ∀ d, c.offsetBy text = .ok d → ∃ outs, d = ⟨name, .datetime unit zone, outs⟩ ∧
      List.Forall₂ (MovesInstant shift unit zone) cells outs ∧
      ∀ (i : Nat) (v w : Int64), cells[i]? = some (some v) → outs[i]? = some (some w) →
        (unit.toDateTime? v).isSome →
          (∃ base t, CalendarTakes shift unit zone v base ∧ unit.toDateTime? base = some t ∧
            w.toInt * unit.nanos = t.nanosSinceEpoch + shift.nanos ∧
            ((unit.toDateTime? w).isSome ↔
              Calendar.inRange ((t.nanosSinceEpoch + shift.nanos) / 86400000000000))) ∧
          (unit = .nanoseconds ∨ shift.nanos = 0 → (unit.toDateTime? w).isSome) := by
  intro c
  by_cases hfine : shift.nanos % unit.nanos = 0
  · constructor
    · simp only [c, exists_offsetBy_datetime_iff hread hfine, exists_shiftTicks_iff, hfine, true_and]
    · intro d hd
      rw [offsetBy_datetime_eq hread hfine, map_eq_ok] at hd
      obtain ⟨outs, houts, rfl⟩ := hd
      -- Every cell is shifted by itself, so its fate is that of one tick.
      have hmoves : List.Forall₂ (MovesInstant shift unit zone) cells outs :=
        (mapM_eq_ok_iff.mp houts).imp fun cell out => movesInstant_of_shiftTicks
      refine ⟨outs, rfl, hmoves, ?_⟩
      intro i v w hv hw hrange
      obtain ⟨out, hout, hmove⟩ := exists_getElem?_of_forall₂ hmoves hv
      obtain rfl : out = some w := Option.some.inj (hout.symm.trans hw)
      exact ⟨hmove.inRange_iff hfine hrange, hmove.isSome hrange⟩
  · have hfails : ∀ d, c.offsetBy text ≠ .ok d := by
      intro d hd
      simp only [c, offsetBy, hread, if_pos hfine] at hd
      cases hd
    exact ⟨iff_of_false (not_exists.mpr hfails) fun h => hfine h.1, fun d hd => absurd hd (hfails d)⟩

/-- The last millisecond of the range, shifted back by a day. -/
theorem offsetBy_datetime_inRange_iff_last_day :
    let shift : Shift := ⟨0, -1, 0⟩
    let cells : List (Option Int64) := [none, some 8210266876799999]
    Shift.read? "-1d".toList = some shift ∧
      offsetBy "-1d" ⟨"t", .datetime .milliseconds none, cells⟩ =
        .ok ⟨"t", .datetime .milliseconds none, [none, some 8210266790399999]⟩ ∧
      (TimeUnit.milliseconds.toDateTime? 8210266876799999).isSome ∧
      (TimeUnit.milliseconds.toDateTime? 8210266790399999).isSome := by
  intro shift cells
  have hread : Shift.read? "-1d".toList = some shift := by decide +kernel
  have hrange : (TimeUnit.milliseconds.toDateTime? 8210266876799999).isSome := by decide
  have hbase : CalendarTakes shift .milliseconds none 8210266876799999 8210266790399999 := by
    rw [CalendarTakes, if_neg (by decide)]
    exact ⟨⟨95026236, 86399, 999000000⟩, ⟨95026235, 86399, 999000000⟩, _, rfl, by decide +kernel, rfl,
      by decide⟩
  have hcell : shiftTicks shift .milliseconds none 8210266876799999 = .ok (some 8210266790399999) :=
    shiftTicks_eq_ok_some_iff.mpr ⟨_, hbase, rfl⟩
  have hshift : offsetBy "-1d" ⟨"t", .datetime .milliseconds none, cells⟩ =
      .ok ⟨"t", .datetime .milliseconds none, [none, some 8210266790399999]⟩ := by
    rw [offsetBy_datetime_eq hread rfl]
    simp [cells, overCell, hcell]
  obtain ⟨outs, houts, -, hresults⟩ :=
    (offsetBy_datetime_inRange_iff hread .milliseconds none "t" cells).2 _ hshift
  obtain rfl : [none, some 8210266790399999] = outs := by simpa using houts
  exact ⟨hread, hshift, hrange, (hresults 1 _ _ rfl rfl hrange).2 (.inr rfl)⟩

/-- A millisecond behind the last one of the range, which is not missing but stands for no date and
time. -/
theorem offsetBy_datetime_leaves_range :
    (TimeUnit.milliseconds.toDateTime? 8210266876799999).isSome ∧
      offsetBy "1ms" ⟨"t", .datetime .milliseconds none, [some 8210266876799999]⟩ =
        .ok ⟨"t", .datetime .milliseconds none, [some 8210266876800000]⟩ ∧
      TimeUnit.milliseconds.toDateTime? 8210266876800000 = none := by
  have hread : Shift.read? "1ms".toList = some ⟨0, 0, 1000000⟩ := by decide +kernel
  refine ⟨by decide, ?_, by decide⟩
  rw [offsetBy_datetime_eq hread rfl]
  rfl

end Column
end TimeTable
