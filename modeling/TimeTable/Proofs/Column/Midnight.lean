import TimeTable.Proofs.Column.Fields

/-!
# Midnights

A day begins with its midnight, and this instant has a number of ticks if that fits a word. A column of
dates and the one of their midnights have the same fields of the calendar and the same counts since 1970,
although the ones are calculated from days and the others from ticks.
-/

namespace TimeTable

open Calendar Word

variable {unit : TimeUnit} {field : TemporalField} {v : Int64} {day : Int32}

/-- The exact number of ticks from 1970 to the beginning of a day. -/
def TimeUnit.midnight (u : TimeUnit) (day : Int32) : Int := day.toInt * 86400 * u.perSecond

/-- The exact count from 1970 to the beginning of a day. -/
def EpochUnit.midnight (target : EpochUnit) (day : Int32) : Int :=
  match target with
  | .ticks unit => unit.midnight day
  | .seconds => day.toInt * 86400
  | .days => day.toInt

/-- The ticks of a midnight stand for the beginning of the day, if it is in range. -/
lemma TimeUnit.toDateTime?_midnight (h : v.toInt = unit.midnight day) :
    unit.toDateTime? v = (check day.toInt).map fun d => ⟨d, 0, 0⟩ := by
  have hday : v.toInt / unit.perSecond = day.toInt * 86400 ∧ v.toInt % unit.perSecond = 0 := by
    rw [h, midnight]
    cases unit <;> simp only [perSecond] <;> omega
  have hinstant : DateTime.ofInstant (day.toInt * 86400) 0 = ⟨day.toInt, 0, 0⟩ := by
    simp only [DateTime.ofInstant, DateTime.mk.injEq, and_true]
    omega
  rw [toDateTime?, hday.1, hday.2, Int.toNat_zero, Nat.zero_mul, hinstant, DateTime.check, check]
  split <;> rfl

/-- The count of the ticks of a midnight is the count of the day. -/
lemma TimeUnit.epochCount_midnight (unit : TimeUnit) (day : Int32) (target : EpochUnit) :
    unit.epochCount (unit.midnight day) target = target.midnight day := by
  cases target with
  | ticks target =>
    have hnanos : unit.midnight day * unit.nanos = target.midnight day * target.nanos := by
      rw [midnight, midnight, Int.mul_assoc, perSecond_mul_nanos, Int.mul_assoc (_ * 86400),
        perSecond_mul_nanos]
    rw [epochCount, countIn, hnanos, EpochUnit.midnight]
    exact Int.mul_tdiv_cancel _ (Int.natCast_ne_zero.mpr target.nanos_pos.ne')
  | seconds => cases unit <;> simp only [epochCount, midnight, EpochUnit.midnight, perSecond] <;> omega
  | days => cases unit <;> simp only [epochCount, midnight, EpochUnit.midnight, perSecond] <;> omega

/-- The fields of the calendar are those of the day. -/
lemma TemporalField.ofDateTime_eq_onDay (h : field.isClock = false) (t : DateTime) :
    field.ofDateTime t = field.onDay t.day := by
  cases field <;> first | rfl | cases h

namespace Column

variable {days : List (Option Int32)} {ticks : List (Option Int64)}

lemma counts_epochOfDay (target : EpochUnit) : Counts (epochOfDay · target) target.midnight := by
  -- A day is a word of 32 bits, so only counts finer than seconds can leave the 64 bits.
  have hfits : ∀ d : Int32, Fits 64 (d.toInt * 86400) ∧ Fits 64 d.toInt := by
    intro d
    have hlow := d.le_toInt
    have hhigh := d.toInt_lt
    rw [fits_64_iff, fits_64_iff]
    omega
  cases target with
  | ticks target =>
    refine .of_eq_elim .epochOverflow (fun d => rfl) ?_
    intro d
    rw [epochOfDay, EpochUnit.midnight, TimeUnit.midnight]
    cases int64? (d.toInt * 86400 * target.perSecond) <;> rfl
  | seconds => exact .of_eq_ofInt (fun d => (hfits d).1) fun d => rfl
  | days => exact .of_eq_ofInt (fun d => (hfits d).2) fun d => rfl

lemma epoch_date (target : EpochUnit) (name : String) (cells : List (Option Int32)) :
    epoch target ⟨name, .date, cells⟩ =
      (mapCells (epochOfDay · target) cells).map (Column.mk name .int64) :=
  bind_ok_eq_map _ _

lemma fieldAt_midnight (hfield : field.isClock = false) (h : v.toInt = unit.midnight day) :
    fieldAt unit field v = (check day.toInt).map fun d => Int64.ofInt (field.onDay d) := by
  rw [fieldAt, TimeUnit.toDateTime?_midnight h, Option.map_map]
  simp only [Function.comp_def, TemporalField.ofDateTime_eq_onDay hfield]

/-- Dates and their midnights have the same fields of the calendar. -/
lemma extract_midnight (hfield : field.isClock = false) (h : AreCounts unit.midnight days ticks)
    (name : String) :
    extract field ⟨name, .datetime unit none, ticks⟩ = extract field ⟨name, .date, days⟩ := by
  rw [extract_none, extract_date hfield, map_eq_of_forall₂ h]
  intro cell tick htick
  cases htick with
  | none => rfl
  | some hv => exact fieldAt_midnight hfield hv

/-- Dates and their midnights have the same counts since 1970, or both have one that does not fit. -/
lemma epoch_midnight (h : AreCounts unit.midnight days ticks) (target : EpochUnit) (name : String) :
    SameOutcome (epoch target ⟨name, .date, days⟩) (epoch target ⟨name, .datetime unit none, ticks⟩) := by
  have hday := counts_epochOfDay target
  have htick := counts_epochOfTicks unit target
  rw [epoch_date, epoch_datetime]
  refine .of_eq_ok_iff (hday.column_onlyInvalid days _) (htick.column_onlyInvalid ticks _) ?_
  intro d
  rw [hday.column_eq_ok_iff, htick.column_eq_ok_iff]
  simp only [h.next_iff fun n => unit.epochCount n target, TimeUnit.epochCount_midnight]

/-- A column of dates and the column of their midnights without a zone, in any unit, agree: each field of
the calendar is the same, and so is each count since 1970. Both are invalid if the count of a day does not
fit, and only then. -/
theorem dates_eq_midnights (name : String) (h : AreCounts unit.midnight days ticks) :
    let dates : Column := ⟨name, .date, days⟩
    let instants : Column := ⟨name, .datetime unit none, ticks⟩
    (∀ field : TemporalField, field.isClock = false →
      ∃ d, dates.extract field = .ok d ∧ instants.extract field = .ok d) ∧
    ∀ target : EpochUnit, SameOutcome (dates.epoch target) (instants.epoch target) ∧
      ((∃ d, dates.epoch target = .ok d) ↔ ∀ day, some day ∈ days → Fits 64 (target.midnight day)) ∧
      ∀ d, dates.epoch target = .ok d → ∃ outs, d = ⟨name, .int64, outs⟩ ∧
        AreCounts target.midnight days outs := by
  intro dates instants
  constructor
  · intro field hfield
    exact ⟨_, extract_date hfield name days, extract_midnight hfield h name ▸ extract_date hfield name days⟩
  · intro target
    have hcounts := counts_epochOfDay target
    refine ⟨epoch_midnight h target name, ?_, ?_⟩
    · rw [epoch_date, hcounts.exists_column_iff]
    · intro d hd
      rw [epoch_date, hcounts.column_eq_ok_iff] at hd
      obtain ⟨outs, houts, rfl⟩ := hd
      exact ⟨outs, rfl, houts⟩

/-- The last day of 1969, which is in the ISO year 1970, and a day whose midnight has a number of
milliseconds, but no number of nanoseconds. -/
theorem dates_eq_midnights_milliseconds :
    let days : List (Option Int32) := [none, some (-1), some 106752]
    let ticks : List (Option Int64) := [none, some (-86400000), some 9223372800000]
    let dates : Column := ⟨"t", .date, days⟩
    let instants : Column := ⟨"t", .datetime .milliseconds none, ticks⟩
    AreCounts TimeUnit.milliseconds.midnight days ticks ∧ TemporalField.isClock .isoYear = false ∧
      dates.extract .isoYear = .ok ⟨"t", .int64, [none, some 1970, some 2262]⟩ ∧
      instants.extract .isoYear = .ok ⟨"t", .int64, [none, some 1970, some 2262]⟩ ∧
      instants.epoch .days = .ok ⟨"t", .int64, [none, some (-1), some 106752]⟩ ∧
      (¬∃ d, dates.epoch (.ticks .nanoseconds) = .ok d) ∧
      ¬∃ d, instants.epoch (.ticks .nanoseconds) = .ok d := by
  intro days ticks dates instants
  have hticks : AreCounts TimeUnit.milliseconds.midnight days ticks :=
    .cons .none (.cons (.some rfl) (.cons (.some rfl) .nil))
  obtain ⟨hfields, hcounts⟩ := dates_eq_midnights "t" hticks
  have hdates : dates.extract .isoYear = .ok ⟨"t", .int64, [none, some 1970, some 2262]⟩ := rfl
  have hoverflow : ¬∃ d, dates.epoch (.ticks .nanoseconds) = .ok d := by
    intro hsome
    have hfits := (hcounts (.ticks .nanoseconds)).2.1.mp hsome 106752
    exact absurd (hfits (by decide)) (by decide)
  refine ⟨hticks, rfl, hdates, ?_, ((hcounts .days).1.eq_ok_iff _).mp rfl, hoverflow, ?_⟩
  · obtain ⟨d, hd, hinstants⟩ := hfields .isoYear rfl
    rw [hinstants, ← hd, hdates]
  · rintro ⟨d, hd⟩
    exact hoverflow ⟨d, ((hcounts (.ticks .nanoseconds)).1.eq_ok_iff d).mpr hd⟩

end Column
end TimeTable
