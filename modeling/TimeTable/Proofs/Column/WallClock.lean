import TimeTable.Proofs.Column.Cellwise
import TimeTable.Proofs.Column.Faults

/-!
# Readings kept in another zone

A column of instants is put into a zone so that the clock there shows what the clock of the old zone
showed. Each count becomes that of the first instant with the same reading, and this is again the
reading of the new count: a reading is one of whole ticks, so nothing of it is lost. Shifts by the
calendar find the instants of the shifted readings in the same way.
-/

namespace TimeTable

/-- The second of the day and the nanosecond. -/
def DateTime.timeOfDay (t : DateTime) : Nat × Nat := (t.second, t.nano)

variable {unit : TimeUnit} {old : Option Zone} {zone : Zone} {reading utc : DateTime} {v w : Int64}
  {instant : Int}

/-! ### The instant of a reading -/

/-- That an instant is the one of a reading: the first at which the clock of a zone shows it, and in range.
A reading without one does not exist in the zone. -/
def Zone.IsInstantOf (zone : Zone) (reading : DateTime) (instant : Int) : Prop :=
  zone.FirstShows reading instant ∧ Calendar.inRange (DateTime.ofInstant instant reading.nano).day

/-- That a count is the one of the instant of a reading. -/
def Zone.CountsFirst (zone : Zone) (unit : TimeUnit) (reading : DateTime) (w : Int64) : Prop :=
  ∃ instant, zone.IsInstantOf reading instant ∧
    unit.ofDateTime? (.ofInstant instant reading.nano) = some w

/-- That a reading does not exist in a zone, or that its instant has no count. -/
def Zone.Misses (zone : Zone) (unit : TimeUnit) (reading : DateTime) : Prop :=
  (∀ instant, ¬zone.IsInstantOf reading instant) ∨ ∃ instant, zone.IsInstantOf reading instant ∧
    unit.ofDateTime? (.ofInstant instant reading.nano) = none

lemma Zone.IsInstantOf.unique {other : Int} (h : zone.IsInstantOf reading instant)
    (hother : zone.IsInstantOf reading other) : other = instant :=
  h.1.unique hother.1

namespace Zone.CountsFirst

/-- Such a count stands for that instant, and the clock shows the reading then. -/
lemma reads (h : zone.CountsFirst unit reading w) (hticks : reading.InTicks unit)
    (hrange : Calendar.inRange reading.day) :
    (∃ instant, zone.FirstShows reading instant ∧
      unit.toDateTime? w = some (.ofInstant instant reading.nano)) ∧
    unit.localDateTime? (some zone) w = .ok (some reading) := by
  obtain ⟨instant, ⟨hfirst, hinstant⟩, hcount⟩ := h
  have hutc := TimeUnit.toDateTime?_of_ofDateTime?
    ⟨DateTime.isReading_ofInstant instant reading.nano, hticks.nano_lt, hticks.nanos_dvd⟩ hinstant hcount
  exact ⟨⟨instant, hfirst, hutc⟩,
    TimeUnit.localDateTime?_eq_ok_some_iff.mpr ⟨_, hutc, hfirst.shows.symm, hrange⟩⟩

/-- There is none for the reasons named, and no other. -/
lemma not_exists_iff : (¬∃ w, zone.CountsFirst unit reading w) ↔ zone.Misses unit reading := by
  constructor
  -- Without a count either no instant shows the reading, or the first one that does has no count.
  · intro hnone
    by_cases hexists : ∃ instant, zone.IsInstantOf reading instant
    · obtain ⟨instant, hinstant⟩ := hexists
      refine .inr ⟨instant, hinstant, Option.eq_none_iff_forall_ne_some.mpr ?_⟩
      exact fun w hw => hnone ⟨w, instant, hinstant, hw⟩
    · exact .inl (not_exists.mp hexists)
  · rintro hnone ⟨w, instant, hinstant, hcount⟩
    rcases hnone with hnever | ⟨other, hother, hlost⟩
    · exact hnever instant hinstant
    -- A reading has one first instant, so the one that is counted and the one that is lost are the same.
    · obtain rfl := hinstant.unique hother
      exact Option.some_ne_none w (hcount.symm.trans hlost)

end Zone.CountsFirst

lemma DateTime.toUtc_eq_ok_iff :
    reading.toUtc (some zone) = .ok utc ↔ zone.ofLocal? reading = some utc := by
  rw [toUtc]
  cases zone.ofLocal? reading with
  | none => simp
  | some found => simp

lemma DateTime.localize_eq_ok_iff (h : reading.IsReading) :
    reading.localize (some zone) unit = .ok w ↔ zone.CountsFirst unit reading w := by
  have hstep : reading.localize (some zone) unit = .ok w ↔
      ∃ utc, zone.ofLocal? reading = some utc ∧ unit.ofDateTime? utc = some w := by
    rw [localize, bind_eq_ok]
    refine exists_congr fun utc => and_congr toUtc_eq_ok_iff ?_
    cases unit.ofDateTime? utc with
    | none => simp
    | some ticks => simp
  rw [hstep]
  simp only [Zone.ofLocal?_eq_some_iff h]
  constructor
  · rintro ⟨utc, ⟨instant, hfirst, rfl, hrange⟩, hw⟩
    exact ⟨instant, ⟨hfirst, hrange⟩, hw⟩
  · rintro ⟨instant, ⟨hfirst, hrange⟩, hw⟩
    exact ⟨_, ⟨instant, hfirst, rfl, hrange⟩, hw⟩

/-! ### Cells -/

namespace Column

variable {name : String} {cells outs : List (Option Int64)} {cell out : Option Int64}

/-- How a cell goes into another zone: the clock there shows what the clock of the old zone showed, and
what is stored is the first instant at which it does. -/
structure KeepsReading (unit : TimeUnit) (old : Option Zone) (zone : Zone) (cell out : Option Int64) :
    Prop where
  reading : readingOf unit (some zone) out = readingOf unit old cell
  first : ∀ w, out = some w → ∃ reading instant, readingOf unit old cell = .ok (some reading) ∧
    zone.FirstShows reading instant ∧ unit.toDateTime? w = some (.ofInstant instant reading.nano)

lemma keepsReading_of_overReading
    (h : overReading unit old (fun reading => reading.localize (some zone) unit) cell = .ok out) :
    KeepsReading unit old zone cell out := by
  cases out with
  | none =>
    refine ⟨(overReading_eq_ok_none_iff.mp h).symm, ?_⟩
    rintro w ⟨⟩
  | some w =>
    obtain ⟨reading, hcell, hw⟩ := overReading_eq_ok_some_iff.mp h
    obtain ⟨v, -, hv⟩ := readingOf_eq_ok_some_iff.mp hcell
    have hticks := TimeUnit.inTicks_of_localDateTime? hv
    have hrange := TimeUnit.inRange_of_localDateTime? hv
    obtain ⟨⟨instant, hfirst, hutc⟩, hreads⟩ :=
      ((DateTime.localize_eq_ok_iff hticks.isReading).mp hw).reads hticks hrange
    refine ⟨hreads.trans hcell.symm, ?_⟩
    rintro w' ⟨⟩
    exact ⟨reading, instant, hcell, hfirst, hutc⟩

/-- What is taken from the readings of a column is the same after it has gone into the zone. -/
lemma mapM_overReading {β : Type} (f : DateTime → Except Fault β)
    (h : List.Forall₂ (KeepsReading unit old zone) cells outs) :
    outs.mapM (overReading unit (some zone) f) = cells.mapM (overReading unit old f) := by
  refine mapM_eq_of_forall₂ h fun cell out hkept => ?_
  rw [overReading, overReading, hkept.reading]

lemma extract_of_keepsReading (h : List.Forall₂ (KeepsReading unit old zone) cells outs)
    (field : TemporalField) :
    extract field ⟨name, .datetime unit (some zone), outs⟩ =
      extract field ⟨name, .datetime unit old, cells⟩ := by
  rw [extract, extract, mapM_overReading _ h]

lemma extractSecond_of_keepsReading (h : List.Forall₂ (KeepsReading unit old zone) cells outs) :
    extractSecond ⟨name, .datetime unit (some zone), outs⟩ =
      extractSecond ⟨name, .datetime unit old, cells⟩ := by
  rw [extractSecond, extractSecond, mapM_overReading _ h]

lemma forall₂_keepsReading_of_reanchor (h : reanchor unit old zone cells = .ok outs) :
    List.Forall₂ (KeepsReading unit old zone) cells outs := by
  rw [reanchor, mapM_eq_ok_iff] at h
  exact h.imp fun cell out hcell => keepsReading_of_overReading hcell

/-- Cells go into a zone unless one of the readings is lost or has no count there. -/
lemma exists_reanchor_iff : (∃ outs, reanchor unit old zone cells = .ok outs) ↔
    ∀ v, some v ∈ cells → ¬unit.LosesReading old v ∧
      ∀ reading, unit.localDateTime? old v = .ok (some reading) →
        ∃ w, zone.CountsFirst unit reading w := by
  have hcount : ∀ v reading, unit.localDateTime? old v = .ok (some reading) →
      ((∃ w, reading.localize (some zone) unit = .ok w) ↔ ∃ w, zone.CountsFirst unit reading w) :=
    fun v reading hreading => exists_congr fun w =>
      DateTime.localize_eq_ok_iff (TimeUnit.inTicks_of_localDateTime? hreading).isReading
  rw [reanchor, exists_mapM_eq_ok_iff]
  simp only [exists_overReading_iff]
  constructor
  · intro h v hv
    obtain ⟨hkept, hlocalized⟩ := h _ hv v rfl
    exact ⟨hkept, fun reading hreading => (hcount v reading hreading).mp (hlocalized reading hreading)⟩
  · rintro h cell hcell v rfl
    obtain ⟨hkept, hcounted⟩ := h v hcell
    exact ⟨hkept, fun reading hreading => (hcount v reading hreading).mpr (hcounted reading hreading)⟩

/-! ### Shifts by the calendar -/

/-- The instant of a reading is taken so that the clock shows it then, also without a zone. -/
lemma localDateTime?_of_toUtc (hticks : reading.InTicks unit) (hrange : Calendar.inRange reading.day)
    (hutc : reading.toUtc old = .ok utc) (hw : unit.ofDateTime? utc = some w) :
    unit.localDateTime? old w = .ok (some reading) := by
  cases old with
  | none =>
    obtain rfl : reading = utc := Except.ok.inj hutc
    rw [TimeUnit.localDateTime?_none, TimeUnit.toDateTime?_of_ofDateTime? hticks hrange hw]
  | some old =>
    rw [DateTime.toUtc_eq_ok_iff, Zone.ofLocal?_eq_some_iff hticks.isReading] at hutc
    obtain ⟨instant, hfirst, rfl, hinstant⟩ := hutc
    exact (Zone.CountsFirst.reads ⟨instant, ⟨hfirst, hinstant⟩, hw⟩ hticks hrange).2

/-- A shift of a date leaves the time of day alone, and the date in range. -/
lemma inTicks_of_shift {shift : Shift} {moved : DateTime} (hticks : reading.InTicks unit)
    (h : shift.dateTime? reading = some moved) : moved.InTicks unit ∧ Calendar.inRange moved.day := by
  obtain ⟨day, hday, rfl⟩ := Option.map_eq_some_iff.mp h
  refine ⟨⟨hticks.isReading, hticks.nano_lt, hticks.nanos_dvd⟩, ?_⟩
  obtain ⟨month, -, hcheck⟩ := Option.bind_eq_some_iff.mp hday
  rw [Calendar.check, Option.ite_none_right_eq_some, Option.some.injEq] at hcheck
  exact hcheck.2 ▸ hcheck.1

/-- A shift by the calendar moves the reading of the clock, and leaves a count alone if it moves
nothing. -/
lemma shiftTicks_eq_ok_some {shift : Shift} (hclock : shift.nanos = 0)
    (h : shiftTicks shift unit old v = .ok (some w)) :
    (shift.months = 0 ∧ shift.days = 0 ∧ w = v) ∨
      ∃ reading moved, unit.localDateTime? old v = .ok (some reading) ∧
        shift.dateTime? reading = some moved ∧ unit.localDateTime? old w = .ok (some moved) := by
  -- Days and months leave the ticks alone, so no part of the shift is added behind the clock.
  have hadd : ∀ n : Int64, Word.int64? (n.toInt + shift.nanos / unit.nanos) = some n := by
    intro n
    rw [hclock, Int.zero_ediv, Int.add_zero, Word.int64?_toInt]
  simp only [shiftTicks, hadd] at h
  split at h
  -- A shift without parts is not taken to the clock at all, so also a lost reading stays.
  · next hzero => exact .inl ⟨hzero.1, hzero.2, (Option.some.inj (Except.ok.inj h)).symm⟩
  · obtain ⟨read, hreading, h⟩ := bind_eq_ok.mp h
    cases hmoved : read.bind shift.dateTime? with
    | none =>
      rw [hmoved] at h
      cases h
    | some moved =>
      rw [hmoved] at h
      obtain ⟨utc, hutc, hcount⟩ := bind_eq_ok.mp h
      obtain ⟨reading, rfl, hshift⟩ := Option.bind_eq_some_iff.mp hmoved
      obtain ⟨n, hn, hw⟩ := Option.bind_eq_some_iff.mp (Except.ok.inj hcount)
      obtain rfl := Option.some.inj hw
      obtain ⟨hticks, hrange⟩ := inTicks_of_shift (TimeUnit.inTicks_of_localDateTime? hreading) hshift
      exact .inr ⟨reading, moved, hreading, hshift, localDateTime?_of_toUtc hticks hrange hutc hn⟩

lemma timeOfDay_of_shift {shift : Shift} {moved : DateTime} (h : shift.dateTime? reading = some moved) :
    moved.timeOfDay = reading.timeOfDay := by
  obtain ⟨day, -, rfl⟩ := Option.map_eq_some_iff.mp h
  rfl

lemma offsetBy_datetime_eq_ok {shift : Shift} {text : String} {d : Column}
    (hread : Shift.read? text.toList = some shift)
    (h : offsetBy text ⟨name, .datetime unit old, cells⟩ = .ok d) :
    ∃ outs, d = ⟨name, .datetime unit old, outs⟩ ∧ List.Forall₂ (fun cell out =>
      (overCell (shiftTicks shift unit old) cell).map Option.join = .ok out) cells outs := by
  simp only [offsetBy, hread] at h
  split at h
  · cases h
  · obtain ⟨shifted, hshifted, hd⟩ := bind_eq_ok.mp h
    refine ⟨shifted.map Option.join, (Except.ok.inj hd).symm, ?_⟩
    rw [← mapM_eq_ok_iff, ← shiftTicks_cellwise, hshifted, map_ok]

/-- A shift by the calendar keeps the time of day. -/
lemma timeOfDay_of_shiftTicks {shift : Shift} (hclock : shift.nanos = 0)
    (h : (overCell (shiftTicks shift unit old) cell).map Option.join = .ok (some w)) :
    ∃ v, cell = some v ∧ (unit.localDateTime? old w).map (Option.map DateTime.timeOfDay) =
      (unit.localDateTime? old v).map (Option.map DateTime.timeOfDay) := by
  cases cell with
  | none => cases h
  | some v =>
    obtain ⟨out, hout, hjoin⟩ := map_eq_ok.mp h
    obtain ⟨shifted, hshifted, rfl⟩ := map_eq_ok.mp hout
    obtain rfl : shifted = some w := hjoin
    refine ⟨v, rfl, ?_⟩
    rcases shiftTicks_eq_ok_some hclock hshifted with ⟨-, -, rfl⟩ | ⟨reading, moved, hv, hmoved, hw⟩
    · rfl
    · rw [hv, hw, map_ok, map_ok, Option.map_some, Option.map_some, timeOfDay_of_shift hmoved]

end Column

/-! ### The range -/

/-- That a date and time is in range by a day on both sides. -/
def DateTime.DayInside (t : DateTime) : Prop :=
  Calendar.inRange (t.day - 1) ∧ Calendar.inRange (t.day + 1)

/-- No reading is lost of an instant that is in range by a day. -/
lemma TimeUnit.not_losesReading (hinside : utc.DayInside) (hutc : unit.toDateTime? v = some utc) :
    ¬unit.LosesReading old v := by
  rintro ⟨utc', hutc', hlost⟩
  obtain rfl := Option.some.inj (hutc.symm.trans hutc')
  have hahead := Zone.natAbs_ahead_lt old utc.instant
  have hsecond : utc.second < 86400 := (inTicks_of_toDateTime? hutc).isReading
  rw [DateTime.DayInside, Calendar.inRange_iff, Calendar.inRange_iff] at hinside
  have hday : ¬Calendar.inRange ((utc.instant + Zone.ahead old utc.instant) / 86400) := hlost
  rw [Calendar.inRange_iff] at hday
  rw [DateTime.instant] at hahead hday
  omega

/-! ### Columns -/

namespace Column

variable {name : String} {cells : List (Option Int64)}

lemma castTimeZone_datetime (zone : Zone) : castTimeZone zone ⟨name, .datetime unit old, cells⟩ =
    (reanchor unit old zone cells).map (Column.mk name (.datetime unit (some zone))) :=
  bind_ok_eq_map _ _

lemma exists_castTimeZone_error_iff :
    (∃ fault, castTimeZone zone ⟨name, .datetime unit old, cells⟩ = .error fault) ↔
      ∃ v, some v ∈ cells ∧ (unit.LosesReading old v ∨
        ∃ reading, unit.localDateTime? old v = .ok (some reading) ∧ zone.Misses unit reading) := by
  have hfails : (∃ fault, castTimeZone zone ⟨name, .datetime unit old, cells⟩ = .error fault) ↔
      ¬∃ outs, reanchor unit old zone cells = .ok outs := by
    rw [castTimeZone_datetime]
    cases reanchor unit old zone cells with
    | error fault => simp [Except.map]
    | ok outs => simp [Except.map]
  rw [hfails, exists_reanchor_iff]
  simp only [← Zone.CountsFirst.not_exists_iff, not_forall, not_and_or, not_not, exists_prop]

/-- The conversion is invalid, unless it ends at a reading that is lost. -/
lemma castTimeZone_failsWith_invalidOperation :
    FailsWith (fun fault => fault.kind = .invalidOperation ∨ ∃ v, some v ∈ cells ∧ unit.LosesReading old v)
      (castTimeZone zone ⟨name, .datetime unit old, cells⟩) := by
  rw [castTimeZone_datetime, reanchor]
  refine (FailsWith.mapM fun cell hcell => overReading_failsWith ?_ ?_).map _
  · exact fun reading => (localizeReading_failsWith (some zone) unit reading).mono fun _ => .inl
  · rintro v rfl hlost fault -
    exact .inr ⟨v, hcell, hlost⟩

/-- Clocks are kept when a column goes into another zone. If it does, every count stands for the first
instant at which the new clock shows what the old clock showed, so all fields of the calendar and the
clock are what they were. It fails if and only if a reading is lost, or does not exist in the new zone, or
its instant has no count. No reading is lost if the instants are in range by a day, and then all failures
are invalid operations. Columns without a zone are localized in the same way. A shift by the calendar alone
keeps the time of day. -/
theorem castTimeZone_keeps_readings (unit : TimeUnit) (old : Option Zone) (zone : Zone) (name : String)
    (cells : List (Option Int64)) :
    let c : Column := ⟨name, .datetime unit old, cells⟩
    (∀ d, c.castTimeZone zone = .ok d →
      (∃ outs, d = ⟨name, .datetime unit (some zone), outs⟩ ∧
        List.Forall₂ (KeepsReading unit old zone) cells outs) ∧
      (∀ field, d.extract field = c.extract field) ∧ d.extractSecond = c.extractSecond) ∧
    (∀ fault, c.castTimeZone zone = .error fault →
      fault.kind = .invalidOperation ∨ ∃ v, some v ∈ cells ∧ unit.LosesReading old v) ∧
    ((∃ fault, c.castTimeZone zone = .error fault) ↔
      ∃ v, some v ∈ cells ∧ (unit.LosesReading old v ∨
        ∃ reading, unit.localDateTime? old v = .ok (some reading) ∧ zone.Misses unit reading)) ∧
    ((∀ v utc, some v ∈ cells → unit.toDateTime? v = some utc → utc.DayInside) →
      (∀ fault, c.castTimeZone zone = .error fault → fault.kind = .invalidOperation) ∧
      ((∃ fault, c.castTimeZone zone = .error fault) ↔
        ∃ v reading, some v ∈ cells ∧ unit.localDateTime? old v = .ok (some reading) ∧
          zone.Misses unit reading)) ∧
    (old = none → c.localize zone = c.castTimeZone zone) ∧
    (∀ text, Zone.named text = .ok zone →
      (TemporalOp.castTimeZone text).apply c = c.castTimeZone zone ∧
      (TemporalOp.tzLocalize text).apply c = c.localize zone) ∧
    ∀ text shift, Shift.read? text.toList = some shift → shift.hasClock = false →
      ∀ d, c.offsetBy text = .ok d → ∃ outs, d = ⟨name, .datetime unit old, outs⟩ ∧
        List.Forall₂ (fun cell out => ∀ w, out = some w → ∃ v, cell = some v ∧
          (unit.localDateTime? old w).map (Option.map DateTime.timeOfDay) =
            (unit.localDateTime? old v).map (Option.map DateTime.timeOfDay)) cells outs := by
  intro c
  refine ⟨?_, castTimeZone_failsWith_invalidOperation, exists_castTimeZone_error_iff, ?_, ?_, ?_, ?_⟩
  · intro d hd
    rw [castTimeZone_datetime, map_eq_ok] at hd
    obtain ⟨outs, houts, rfl⟩ := hd
    have hkept := forall₂_keepsReading_of_reanchor houts
    exact ⟨⟨outs, rfl, hkept⟩, extract_of_keepsReading hkept, extractSecond_of_keepsReading hkept⟩
  · intro hinside
    -- A day from the ends of the range no reading is lost, so what fails is what the zone misses.
    have hkept : ∀ v, some v ∈ cells → ¬unit.LosesReading old v := by
      rintro v hv ⟨utc, hutc, hlost⟩
      exact TimeUnit.not_losesReading (hinside v utc hv hutc) hutc ⟨utc, hutc, hlost⟩
    constructor
    · intro fault hfault
      refine (castTimeZone_failsWith_invalidOperation fault hfault).resolve_right ?_
      rintro ⟨v, hv, hlost⟩
      exact hkept v hv hlost
    · rw [exists_castTimeZone_error_iff]
      constructor
      · rintro ⟨v, hv, hfails⟩
        obtain ⟨reading, hreading, hmisses⟩ := hfails.resolve_left (hkept v hv)
        exact ⟨v, reading, hv, hreading, hmisses⟩
      · rintro ⟨v, reading, hv, hreading, hmisses⟩
        exact ⟨v, hv, .inr ⟨reading, hreading, hmisses⟩⟩
  · rintro rfl
    rfl
  · intro text hzone
    simp only [TemporalOp.apply, hzone, ok_bind, and_self]
  · intro text shift hread hclock d hd
    have hnanos : shift.nanos = 0 := by simpa [Shift.hasClock] using hclock
    obtain ⟨outs, rfl, houts⟩ := offsetBy_datetime_eq_ok hread hd
    refine ⟨outs, rfl, houts.imp ?_⟩
    rintro cell out hout w rfl
    exact timeOfDay_of_shiftTicks hnanos hout

/-- In Samoa, a reading of the hour in 2021 in which the clock was set back, and noon of the day in 2011
that was left out. -/
theorem castTimeZone_keeps_readings_samoa :
    let zone := Zone.PacificApia.zone
    let twice : Column := ⟨"t", .datetime .milliseconds none, [none, some 1617506000007]⟩
    let never : Column := ⟨"t", .datetime .milliseconds none, [some 1325246400000]⟩
    let first : Column := ⟨"t", .datetime .milliseconds (some zone), [none, some 1617455600007]⟩
    Zone.named "Pacific/Apia" = .ok zone ∧
      (TemporalOp.tzLocalize "Pacific/Apia").apply twice = .ok first ∧
      first.extract .minute = twice.extract .minute ∧
      (∀ v utc, some v ∈ [some (1325246400000 : Int64)] →
        TimeUnit.milliseconds.toDateTime? v = some utc → utc.DayInside) ∧
      (∃ fault, never.castTimeZone zone = .error fault ∧ fault.kind = .invalidOperation) ∧
      ∃ v reading, some v ∈ [some (1325246400000 : Int64)] ∧
        TimeUnit.milliseconds.localDateTime? none v = .ok (some reading) ∧
        zone.Misses .milliseconds reading := by
  intro zone twice never first
  have hzone : Zone.named "Pacific/Apia" = .ok zone := by rfl
  have hcells : reanchor .milliseconds none Zone.PacificApia.zone [none, some 1617506000007] =
      .ok [none, some 1617455600007] := by rfl
  have htwice : twice.castTimeZone zone = .ok first :=
    (castTimeZone_datetime Zone.PacificApia.zone).trans (congrArg (Except.map _) hcells)
  have hnever : never.castTimeZone zone = .error (.noInstant ⟨15338, 43200, 0⟩ zone) := by rfl
  have hinside : ∀ v utc, some v ∈ [some (1325246400000 : Int64)] →
      TimeUnit.milliseconds.toDateTime? v = some utc → utc.DayInside := by
    intro v utc hv hutc
    obtain rfl := Option.some.inj (List.mem_singleton.mp hv)
    obtain rfl := Option.some.inj hutc
    exact ⟨by decide, by decide⟩
  obtain ⟨hkept, -, -, -, hnaive, hnamed, -⟩ :=
    castTimeZone_keeps_readings .milliseconds none zone "t" [none, some 1617506000007]
  obtain ⟨-, -, -, hfails, -⟩ :=
    castTimeZone_keeps_readings .milliseconds none zone "t" [some 1325246400000]
  obtain ⟨hkind, hmisses⟩ := hfails hinside
  refine ⟨hzone, ?_, (hkept first htwice).2.1 .minute, hinside, ⟨_, hnever, hkind _ hnever⟩,
    hmisses.mp ⟨_, hnever⟩⟩
  rw [(hnamed _ hzone).2, hnaive rfl]
  exact htwice

end Column
end TimeTable
