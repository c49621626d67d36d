import TimeTable.Proofs.Calendar.Counting
import TimeTable.Proofs.Column.UnitCasts
import TimeTable.Proofs.Shift.Instants

/-!
# Fields of instants

The fields of an instant are taken from its date and time, and its counts of days and seconds straight from
the ticks. They fit together: the clock gives the place in the day that the counts leave over, and the
calendar gives the date, the week and the quarter of the day that is counted. Only what is out of range
has no fields.
-/

namespace TimeTable

open Calendar Word

variable {unit : TimeUnit} {field : TemporalField} {t : DateTime} {v : Int64} {day : Int}

/-! ### Fields of days -/

/-- That numbers are the fields of a day: those of the date that falls on it, its places in the quarters and
days of the year, its place in the week and the number of this week from the first one of the ISO year, the
one with January 4, on. -/
structure IsDayFields (value : TemporalField → Int) (day : Int) : Prop where
  date : ∃ date, FallsOn date day ∧ value .year = date.year ∧ value .month = date.month ∧
    value .day = date.day
  quarter : value .quarter = (value .month - 1) / 3 + 1
  ordinalDay : ∃ first, FallsOn ⟨value .year, 1, 1⟩ first ∧ value .ordinalDay = day - first + 1
  weekday : value .weekday = (day + 3) % 7
  week : ∃ fourth, FallsOn ⟨value .isoYear, 1, 4⟩ fourth ∧
    day = fourth - (fourth + 3) % 7 + 7 * (value .week - 1) + value .weekday
  week_range : 1 ≤ value .week ∧ value .week ≤ 53
  week_in_year : ∃ fourth, FallsOn ⟨value .isoYear + 1, 1, 4⟩ fourth ∧
    day - value .weekday < fourth - (fourth + 3) % 7

lemma weekday_eq (day : Int) : (Calendar.weekday day : Int) = (day + 3) % 7 := by
  rw [Calendar.weekday]
  omega

lemma isoStart_eq (year : Int) :
    isoStart year = yearStart year + 3 - (yearStart year + 3 + 3) % 7 := by
  rw [isoStart, weekday_eq]

/-- The fields that are taken from a day are its fields. -/
lemma isDayFields_onDay (day : Int) : IsDayFields (fun field => field.onDay day) day := by
  obtain ⟨hyear, hmonth, -, -, -, -⟩ := dateOf_spec day
  -- The week of a day is found from the first day of its year of weeks, the one with the fourth of January.
  obtain ⟨hweek, hfirst, hlast, hnext⟩ := isoStart_add day
  have hplace := yearStart_add_dayOfYear day
  have hjanuary := fun year => fallsOn_january year 4 (by decide) (by decide)
  refine ⟨⟨dateOf day, fallsOn_dateOf day, hyear.symm, rfl, rfl⟩, ?_, ?_, weekday_eq day, ?_, ?_, ?_⟩
  · simp only [TemporalField.onDay]
    omega
  · refine ⟨_, fallsOn_january _ 1 (Nat.le_refl 1) (by decide), ?_⟩
    simp only [TemporalField.onDay]
    omega
  · refine ⟨_, hjanuary _, ?_⟩
    rw [isoStart_eq] at hweek
    simp only [TemporalField.onDay]
    omega
  · simp only [TemporalField.onDay]
    omega
  · refine ⟨_, hjanuary _, ?_⟩
    rw [isoStart_eq (_ + 1)] at hnext
    simp only [TemporalField.onDay]
    omega

/-! ### Fields of instants -/

/-- That numbers are the fields of an instant, given in nanoseconds since 1970, and its days and seconds: the
calendar fields are those of the day, and the clock fields give the rest of the instant. -/
structure IsInstantFields (value : TemporalField → Int) (nanos days seconds : Int) : Prop where
  nanos_eq : nanos = seconds * 1000000000 + value .nanosecond
  seconds_eq : seconds = days * 86400 + value .hour * 3600 + value .minute * 60 + value .second
  hour_range : 0 ≤ value .hour ∧ value .hour < 24
  minute_range : 0 ≤ value .minute ∧ value .minute < 60
  second_range : 0 ≤ value .second ∧ value .second < 60
  nanosecond_range : 0 ≤ value .nanosecond ∧ value .nanosecond < 1000000000
  millisecond : value .millisecond = value .nanosecond / 1000000
  microsecond : value .microsecond = value .nanosecond / 1000
  onDay : IsDayFields value days

/-- The fields of a date and time fit together. -/
lemma isInstantFields_ofDateTime (hsecond : t.IsReading) (hnano : t.nano < 1000000000) :
    IsInstantFields (fun field => field.ofDateTime t) t.nanosSinceEpoch t.day t.instant := by
  have hlt : t.second < 86400 := hsecond
  have hday := isDayFields_onDay t.day
  -- The clock is a mixed count in base 24, 60 and 60, and the rest of the fields is that of the day.
  refine ⟨rfl, ?_, ?_, ?_, ?_, ?_, rfl, rfl, ?_⟩
  · simp only [TemporalField.ofDateTime, DateTime.instant, DateTime.hour, DateTime.minute,
      DateTime.secondOfMinute]
    omega
  · simp only [TemporalField.ofDateTime, DateTime.hour]
    omega
  · simp only [TemporalField.ofDateTime, DateTime.minute]
    omega
  · simp only [TemporalField.ofDateTime, DateTime.secondOfMinute]
    omega
  · simp only [TemporalField.ofDateTime]
    omega
  · exact ⟨hday.date, hday.quarter, hday.ordinalDay, hday.weekday, hday.week, hday.week_range,
      hday.week_in_year⟩

/-! ### Sizes -/

lemma natAbs_isoYear_lt (h : inRange day) : (isoYear day).natAbs < 1000000 := by
  rw [inRange_iff, firstDay, lastDay] at h
  have hnear : -96465295 ≤ thursdayOf day ∧ thursdayOf day ≤ 95026239 := by
    simp only [thursdayOf, weekday_eq]
    omega
  rw [isoYear]
  generalize thursdayOf day = thursday at hnear
  simp only [yearOf]
  omega

lemma natAbs_onDay_lt (h : inRange day) (field : TemporalField) :
    (field.onDay day).natAbs < 1000000 := by
  obtain ⟨-, -, hmonth, -, -, -⟩ := dateOf_spec day
  cases field with
  | year => exact natAbs_yearOf_lt h
  | isoYear => exact natAbs_isoYear_lt h
  | quarter =>
    simp only [TemporalField.onDay]
    omega
  | month =>
    simp only [TemporalField.onDay]
    omega
  | week =>
    have hweek := (isoStart_add day).2.2.1
    simp only [TemporalField.onDay]
    omega
  | weekday =>
    have hweekday := weekday_eq day
    simp only [TemporalField.onDay]
    omega
  | day =>
    have hday := day_dateOf_le day
    simp only [TemporalField.onDay]
    omega
  | ordinalDay =>
    have hplace := dayOfYear_lt day
    have hlength := yearLength_le (yearOf day)
    simp only [TemporalField.onDay]
    omega
  | _ => exact (by decide : (0 : Int).natAbs < 1000000)

/-- The fields of a date and time in range fit words. -/
lemma fits_ofDateTime (hsecond : t.IsReading) (hnano : t.nano < 1000000000) (hrange : inRange t.day)
    (field : TemporalField) : Fits 64 (field.ofDateTime t) := by
  have hlt : t.second < 86400 := hsecond
  have hday := natAbs_onDay_lt hrange field
  rw [fits_64_iff]
  cases field with
  | hour => simp only [TemporalField.ofDateTime, DateTime.hour]; omega
  | minute => simp only [TemporalField.ofDateTime, DateTime.minute]; omega
  | second => simp only [TemporalField.ofDateTime, DateTime.secondOfMinute]; omega
  | millisecond => simp only [TemporalField.ofDateTime]; omega
  | microsecond => simp only [TemporalField.ofDateTime]; omega
  | nanosecond => simp only [TemporalField.ofDateTime]; omega
  | _ => simp only [TemporalField.ofDateTime]; omega

/-! ### Counts since 1970 -/

/-- The day that a number of ticks falls on. -/
def TimeUnit.dayAt (u : TimeUnit) (n : Int) : Int := n * u.nanos / 86400000000000

/-- The exact count since 1970 of a number of ticks: in ticks cut toward zero, and in seconds and days
rounded down. -/
def TimeUnit.epochCount (u : TimeUnit) (n : Int) : EpochUnit → Int
  | .ticks target => u.countIn n target.nanos
  | .seconds => n / u.perSecond
  | .days => n / (u.perSecond * 86400)

namespace Column

variable {name : String} {zone : Option Zone} {cells : List (Option Int64)}

/-- Counts of seconds and days fit words. -/
lemma fits_epochCount {target : EpochUnit} (h : target = .seconds ∨ target = .days) (u : TimeUnit)
    (v : Int64) : Fits 64 (u.epochCount v.toInt target) := by
  have hlow := v.le_toInt
  have hhigh := v.toInt_lt
  rw [fits_64_iff]
  rcases h with rfl | rfl
  · cases u <;> simp only [TimeUnit.epochCount, TimeUnit.perSecond] <;> omega
  · cases u <;> simp only [TimeUnit.epochCount, TimeUnit.perSecond] <;> omega

lemma counts_epochOfTicks (u : TimeUnit) (target : EpochUnit) :
    Counts (epochOfTicks u · target) fun v => u.epochCount v.toInt target := by
  cases target with
  | ticks target => exact counts_rescale u target
  | seconds => exact .of_eq_ofInt (fits_epochCount (.inl rfl) u) fun v => rfl
  | days => exact .of_eq_ofInt (fits_epochCount (.inr rfl) u) fun v => rfl

lemma epoch_datetime (target : EpochUnit) (u : TimeUnit) (zone : Option Zone) (name : String)
    (cells : List (Option Int64)) :
    epoch target ⟨name, .datetime u zone, cells⟩ =
      (mapCells (epochOfTicks u · target) cells).map (Column.mk name .int64) :=
  bind_ok_eq_map _ _

/-- The seconds and the days of instants can always be counted. -/
lemma exists_epoch {target : EpochUnit} (h : target = .seconds ∨ target = .days) (u : TimeUnit)
    (name : String) (cells : List (Option Int64)) :
    ∃ outs, epoch target ⟨name, .datetime u none, cells⟩ = .ok ⟨name, .int64, outs⟩ ∧
      AreCounts (fun v => u.epochCount v.toInt target) cells outs := by
  have hcounts := counts_epochOfTicks u target
  obtain ⟨outs, houts⟩ := exists_areCounts_iff.mpr fun v (_ : some v ∈ cells) => fits_epochCount h u v
  refine ⟨outs, ?_, houts⟩
  rw [epoch_datetime, hcounts.column_eq_ok_iff]
  exact ⟨outs, houts, rfl⟩

/-! ### Columns -/

/-- The field of a count of ticks, if the instant is in range. -/
def fieldAt (u : TimeUnit) (field : TemporalField) (v : Int64) : Option Int64 :=
  (u.toDateTime? v).map fun t => Int64.ofInt (field.ofDateTime t)

lemma extract_none (field : TemporalField) (u : TimeUnit) (name : String)
    (cells : List (Option Int64)) :
    extract field ⟨name, .datetime u none, cells⟩ =
      .ok ⟨name, .int64, cells.map fun cell => cell.bind (fieldAt u field)⟩ := by
  have hcell : ∀ cell, overReading u none (fun t => .ok (Int64.ofInt (field.ofDateTime t))) cell =
      .ok (cell.bind (fieldAt u field)) := by
    intro cell
    cases cell with
    | none => rfl
    -- Without a zone the clock is UTC, on which no reading is lost.
    | some v =>
      rw [overReading, readingOf, TimeUnit.localDateTime?_none, ok_bind, Option.bind_some, fieldAt]
      cases u.toDateTime? v with
      | none => rfl
      | some t => rfl
  rw [extract, funext hcell, mapM_ok]
  rfl

lemma toDateTime?_eq_none_iff : unit.toDateTime? v = none ↔ ¬inRange (unit.dayAt v.toInt) := by
  rw [TimeUnit.dayAt, ← TimeUnit.toDateTime?_isSome_iff]
  simp

/-- In a zone nothing is taken from a cell that is missing or out of range, and something from any other
whose reading is not lost. -/
lemma eq_none_iff_of_overReading {β : Type} {f : DateTime → Except Fault β} {cell : Option Int64}
    {out : Option β} (h : overReading unit zone f cell = .ok out) :
    out = none ↔ ∀ v, cell = some v → ¬inRange (unit.dayAt v.toInt) := by
  simp only [← toDateTime?_eq_none_iff]
  cases out with
  | none => exact iff_of_true rfl (readingOf_eq_ok_none_iff.mp (overReading_eq_ok_none_iff.mp h))
  | some b =>
    obtain ⟨reading, hreading, -⟩ := overReading_eq_ok_some_iff.mp h
    obtain ⟨v, rfl, hv⟩ := readingOf_eq_ok_some_iff.mp hreading
    obtain ⟨utc, hutc, -⟩ := TimeUnit.localDateTime?_eq_ok_some_iff.mp hv
    simp [hutc]

/-- The fields and counts of an instant in range fit together. -/
lemma isInstantFields_of_toDateTime? (h : unit.toDateTime? v = some t) :
    IsInstantFields (fun field => (Int64.ofInt (field.ofDateTime t)).toInt) (v.toInt * unit.nanos)
      (unit.epochCount v.toInt .days) (unit.epochCount v.toInt .seconds) := by
  obtain ⟨-, hinstant, hrange⟩ := TimeUnit.tickOf_toDateTime? h
  obtain ⟨hsecond, hnano, -⟩ := TimeUnit.inTicks_of_toDateTime? h
  have hvalue : (fun field : TemporalField => (Int64.ofInt (field.ofDateTime t)).toInt) =
      fun field => field.ofDateTime t :=
    funext fun field => (fits_ofDateTime hsecond hnano hrange field).toInt_ofInt
  have hday : unit.epochCount v.toInt .days = t.day := by
    have hlt : t.second < 86400 := hsecond
    rw [DateTime.instant] at hinstant
    cases unit <;> simp only [TimeUnit.epochCount, TimeUnit.perSecond] at hinstant ⊢ <;> omega
  rw [hvalue, hday, TimeUnit.epochCount, ← hinstant, ← TimeUnit.nanosSinceEpoch_of_toDateTime? h]
  exact isInstantFields_ofDateTime hsecond hnano

lemma extract_date (hfield : field.isClock = false) (name : String) (cells : List (Option Int32)) :
    extract field ⟨name, .date, cells⟩ = .ok ⟨name, .int64, cells.map fun cell =>
      cell.bind fun d => (check d.toInt).map fun day => Int64.ofInt (field.onDay day)⟩ := by
  have hcell : ∀ d : Int32, (check d.toInt).bind (fun day => some (Int64.ofInt (field.onDay day))) =
      (check d.toInt).map fun day => Int64.ofInt (field.onDay day) := by
    intro d
    rw [Option.map_eq_bind]
    rfl
  rw [extract, hfield]
  simp only [Bool.false_eq_true, if_false, Option.bind_eq_bind, hcell]

/-- The fields of a column of instants without a zone can be extracted, and its days and seconds can be
counted. In each row whose instant is in range they fit together: the clock fields are the rest that the
counts leave over, and the calendar fields are those of the day. Only where the instant is missing or out of
range, in a zone or without one, or the date in a column of dates, the fields are missing. -/
theorem extract_reconstructs (unit : TimeUnit) (name : String) (cells : List (Option Int64))
    (dates : List (Option Int32)) :
    let c (zone : Option Zone) : Column := ⟨name, .datetime unit zone, cells⟩
    (∃ (fields : TemporalField → List (Option Int64)) (days seconds : List (Option Int64)),
      (∀ field, (c none).extract field = .ok ⟨name, .int64, fields field⟩) ∧
      (c none).epoch .days = .ok ⟨name, .int64, days⟩ ∧
      (c none).epoch .seconds = .ok ⟨name, .int64, seconds⟩ ∧
      ∀ (i : Nat) (v : Int64), cells[i]? = some (some v) → inRange (unit.dayAt v.toInt) →
        ∃ (value : TemporalField → Int64) (day second : Int64),
          (∀ field, (fields field)[i]? = some (some (value field))) ∧
          days[i]? = some (some day) ∧ seconds[i]? = some (some second) ∧
          IsInstantFields (fun field => (value field).toInt) (v.toInt * unit.nanos) day.toInt
            second.toInt) ∧
    (∀ (zone : Option Zone) (field : TemporalField) (d : Column), (c zone).extract field = .ok d →
      ∃ outs, d = ⟨name, .int64, outs⟩ ∧ List.Forall₂ (fun cell out => out = none ↔
        ∀ v, cell = some v → ¬inRange (unit.dayAt v.toInt)) cells outs) ∧
    ∀ field : TemporalField, field.isClock = false →
      ∃ outs, extract field ⟨name, .date, dates⟩ = .ok ⟨name, .int64, outs⟩ ∧
        List.Forall₂ (fun cell out => out = none ↔ ∀ d, cell = some d → ¬inRange d.toInt) dates outs := by
  intro c
  obtain ⟨days, hdays, hdays'⟩ := exists_epoch (.inr rfl) unit name cells
  obtain ⟨seconds, hseconds, hseconds'⟩ := exists_epoch (.inl rfl) unit name cells
  refine ⟨⟨_, days, seconds, fun field => extract_none field unit name cells, hdays, hseconds,
    ?_⟩, ?_, ?_⟩
  · intro i v hv hrange
    obtain ⟨day, hday, hday'⟩ := hdays'.exists_getElem? hv
    obtain ⟨second, hsecond, hsecond'⟩ := hseconds'.exists_getElem? hv
    rw [TimeUnit.dayAt, ← TimeUnit.toDateTime?_isSome_iff, Option.isSome_iff_exists] at hrange
    obtain ⟨t, ht⟩ := hrange
    refine ⟨fun field => Int64.ofInt (field.ofDateTime t), day, second, ?_, hday, hsecond, ?_⟩
    · intro field
      rw [List.getElem?_map, hv, Option.map_some, Option.bind_some, fieldAt, ht, Option.map_some]
    · rw [hday', hsecond']
      exact isInstantFields_of_toDateTime? ht
  · intro zone field d hd
    obtain ⟨outs, houts, hcolumn⟩ := bind_eq_ok.mp hd
    obtain rfl := Except.ok.inj hcolumn
    exact ⟨outs, rfl, (mapM_eq_ok_iff.mp houts).imp fun cell out => eq_none_iff_of_overReading⟩
  · intro field hfield
    refine ⟨_, extract_date hfield name dates, ?_⟩
    rw [List.forall₂_map_right_iff, List.forall₂_same]
    intro cell _
    cases cell with
    | none => simp
    | some d => simp [check]

/-- The last millisecond of 1969, which is in the first week of the ISO year 1970, and a date and an instant
out of range. -/
theorem extract_reconstructs_before_epoch :
    let c : Column := ⟨"t", .datetime .milliseconds none, [none, some (-1), some Int64.maxValue]⟩
    inRange (TimeUnit.milliseconds.dayAt (-1)) ∧
      c.extract .isoYear = .ok ⟨"t", .int64, [none, some 1970, none]⟩ ∧
      (∃ value : TemporalField → Int64, value .isoYear = 1970 ∧
        (∀ field, ∃ outs, c.extract field = .ok ⟨"t", .int64, outs⟩ ∧ outs[1]? = some (some (value field))) ∧
        IsInstantFields (fun field => (value field).toInt) (-1000000) (-1) (-1)) ∧
      List.Forall₂ (fun cell out => out = none ↔
          ∀ v, cell = some v → ¬inRange (TimeUnit.milliseconds.dayAt v.toInt)) c.cells
        [none, some (1970 : Int64), none] ∧
      TemporalField.isClock .month = false ∧
      extract .month ⟨"t", .date, [some 95026237]⟩ = .ok ⟨"t", .int64, [none]⟩ := by
  intro c
  have hrange : inRange (TimeUnit.milliseconds.dayAt (-1)) := by decide
  have hyear : c.extract .isoYear = .ok ⟨"t", .int64, [none, some 1970, none]⟩ := rfl
  obtain ⟨⟨fields, days, seconds, hfields, hdays, hseconds, hrows⟩, hmissing, hdates⟩ :=
    extract_reconstructs .milliseconds "t" [none, some (-1), some Int64.maxValue] [some 95026237]
  obtain ⟨value, day, second, hvalue, hday, hsecond, hfit⟩ := hrows 1 (-1) rfl hrange
  refine ⟨hrange, hyear, ⟨value, ?_, fun field => ⟨_, hfields field, hvalue field⟩, ?_⟩, ?_, rfl, ?_⟩
  · have hcells : fields .isoYear = [none, some 1970, none] := by
      simpa using (hfields .isoYear).symm.trans hyear
    have hcell := hvalue .isoYear
    rw [hcells] at hcell
    exact (Option.some.inj (Option.some.inj hcell)).symm
  · have hdays' : c.epoch .days = .ok ⟨"t", .int64, [none, some (-1), some 106751991167]⟩ := rfl
    have hseconds' : c.epoch .seconds = .ok ⟨"t", .int64, [none, some (-1), some 9223372036854775]⟩ := rfl
    obtain rfl : days = [none, some (-1), some 106751991167] := by
      simpa using hdays.symm.trans hdays'
    obtain rfl : seconds = [none, some (-1), some 9223372036854775] := by
      simpa using hseconds.symm.trans hseconds'
    obtain rfl := Option.some.inj (Option.some.inj hday)
    obtain rfl := Option.some.inj (Option.some.inj hsecond)
    exact hfit
  · obtain ⟨outs, houts, hnone⟩ := hmissing none .isoYear _ hyear
    obtain rfl : [none, some (1970 : Int64), none] = outs := by simpa using houts
    exact hnone
  · obtain ⟨outs, houts, hnone⟩ := hdates .month rfl
    obtain _ | ⟨hout, _ | _⟩ := hnone
    rw [houts, hout.mpr fun d hd => Option.some.inj hd ▸ (by decide : ¬inRange (Int32.toInt 95026237))]

end Column
end TimeTable
