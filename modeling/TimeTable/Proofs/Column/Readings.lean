import TimeTable.Column.Extract
import TimeTable.Proofs.Failure
import TimeTable.Proofs.Zone.Readings

/-!
# Readings of columns

What the clock of a zone shows at the instants of a column. A count that is out of range has no reading.
Of one that is in range the reading can still be out of range, if it is less than a day from an end of
the range, and the program ends there.
-/

namespace TimeTable

variable {unit : TimeUnit} {old : Option Zone} {reading utc : DateTime} {v : Int64} {fault : Fault}

/-- The seconds that the clock is ahead of UTC at an instant; without a zone it shows UTC. -/
def Zone.ahead (zone : Option Zone) (instant : Int) : Int :=
  (zone.map fun zone => zone.offsetAt instant).getD 0

lemma Zone.natAbs_ahead_lt (zone : Option Zone) (instant : Int) :
    (Zone.ahead zone instant).natAbs < 86400 := by
  cases zone with
  | none => exact (by decide : (0 : Int).natAbs < 86400)
  | some zone => exact zone.natAbs_offsetAt_lt instant

/-- What the clock of a zone shows at a date and time in UTC, in range or not. -/
def DateTime.shownBy (utc : DateTime) (zone : Option Zone) : DateTime :=
  .ofInstant (utc.instant + Zone.ahead zone utc.instant) utc.nano

lemma DateTime.shownBy_none (h : utc.IsReading) : utc.shownBy none = utc := by
  rw [shownBy, Zone.ahead, Option.map_none, Option.getD_none, Int.add_zero, ofInstant_instant h]

lemma Zone.toLocal?_eq_some_iff {zone : Zone} : zone.toLocal? utc = some reading ↔
    reading = utc.shownBy zone ∧ Calendar.inRange reading.day := by
  rw [toLocal?, DateTime.check, Option.ite_none_right_eq_some, Option.some.injEq]
  constructor
  · rintro ⟨hrange, rfl⟩
    exact ⟨rfl, hrange⟩
  · rintro ⟨rfl, hrange⟩
    exact ⟨hrange, rfl⟩

lemma Zone.toLocal?_eq_none_iff {zone : Zone} :
    zone.toLocal? utc = none ↔ ¬Calendar.inRange (utc.shownBy zone).day := by
  rw [Option.eq_none_iff_forall_ne_some]
  simp only [ne_eq, toLocal?_eq_some_iff, not_and, forall_eq]

namespace DateTime

lemma onClock_eq_ok_iff (hreading : utc.IsReading) (hrange : Calendar.inRange utc.day) :
    utc.onClock old = .ok reading ↔ reading = utc.shownBy old ∧ Calendar.inRange reading.day := by
  cases old with
  | none =>
    rw [onClock, Except.ok.injEq, shownBy_none hreading, eq_comm]
    exact (and_iff_left_of_imp fun h => h ▸ hrange).symm
  | some zone =>
    rw [← Zone.toLocal?_eq_some_iff, onClock]
    cases zone.toLocal? utc with
    | none => simp
    | some shown => simp

/-- Only a reading that is out of range fails, and so only in a zone. -/
lemma onClock_eq_error_iff (hreading : utc.IsReading) (hrange : Calendar.inRange utc.day) :
    utc.onClock old = .error fault ↔ ¬Calendar.inRange (utc.shownBy old).day ∧
      ∃ zone, old = some zone ∧ fault = .readingOutOfRange utc zone := by
  cases old with
  | none =>
    rw [onClock, shownBy_none hreading]
    simp [hrange]
  | some zone =>
    rw [← Zone.toLocal?_eq_none_iff, onClock]
    cases zone.toLocal? utc with
    | none => simp [eq_comm]
    | some shown => simp

end DateTime

/-- That an instant is in range, but not what the clock of a zone shows then. -/
def TimeUnit.LosesReading (unit : TimeUnit) (zone : Option Zone) (v : Int64) : Prop :=
  ∃ utc, unit.toDateTime? v = some utc ∧ ¬Calendar.inRange (utc.shownBy zone).day

namespace TimeUnit

lemma localDateTime?_eq_ok_some_iff : unit.localDateTime? old v = .ok (some reading) ↔
    ∃ utc, unit.toDateTime? v = some utc ∧ reading = utc.shownBy old ∧
      Calendar.inRange reading.day := by
  rw [localDateTime?]
  cases hutc : unit.toDateTime? v with
  | none => simp [Column.overCell]
  | some utc =>
    have hrange := (tickOf_toDateTime? hutc).2.2
    simp [Column.overCell, DateTime.onClock_eq_ok_iff (inTicks_of_toDateTime? hutc).isReading hrange]

lemma localDateTime?_eq_ok_none_iff :
    unit.localDateTime? old v = .ok none ↔ unit.toDateTime? v = none := by
  rw [localDateTime?]
  cases unit.toDateTime? v with
  | none => simp [Column.overCell]
  | some utc => simp [Column.overCell]

/-- A count has a reading, or none for being out of range, unless it loses its reading. -/
lemma exists_localDateTime?_iff :
    (∃ out, unit.localDateTime? old v = .ok out) ↔ ¬unit.LosesReading old v := by
  constructor
  · rintro ⟨out, hout⟩ ⟨utc, hutc, hlost⟩
    cases out with
    | none => exact Option.some_ne_none utc (hutc.symm.trans (localDateTime?_eq_ok_none_iff.mp hout))
    | some reading =>
      obtain ⟨utc', hutc', rfl, hrange⟩ := localDateTime?_eq_ok_some_iff.mp hout
      obtain rfl := Option.some.inj (hutc.symm.trans hutc')
      exact hlost hrange
  · intro h
    cases hutc : unit.toDateTime? v with
    | none => exact ⟨none, localDateTime?_eq_ok_none_iff.mpr hutc⟩
    | some utc =>
      have hrange : Calendar.inRange (utc.shownBy old).day := by
        by_contra hlost
        exact h ⟨utc, hutc, hlost⟩
      exact ⟨_, localDateTime?_eq_ok_some_iff.mpr ⟨utc, hutc, rfl, hrange⟩⟩

/-- Without a zone every count in range has a reading. -/
lemma localDateTime?_none (unit : TimeUnit) (v : Int64) :
    unit.localDateTime? none v = .ok (unit.toDateTime? v) := by
  rw [localDateTime?]
  cases unit.toDateTime? v with
  | none => rfl
  | some utc => rfl

/-- The clock fails only at a reading that is lost. -/
lemma localDateTime?_failsWith (unit : TimeUnit) (zone : Option Zone) (v : Int64) :
    FailsWith (fun fault => fault.OfReading ∧ unit.LosesReading zone v) (unit.localDateTime? zone v) := by
  rw [localDateTime?]
  cases hutc : unit.toDateTime? v with
  | none => exact .ok none
  | some utc =>
    refine FailsWith.map ?_ _
    rintro fault hfault
    rw [DateTime.onClock_eq_error_iff (inTicks_of_toDateTime? hutc).isReading
      (tickOf_toDateTime? hutc).2.2] at hfault
    obtain ⟨hlost, zone, rfl, rfl⟩ := hfault
    exact ⟨⟨unit, v, utc, zone, hutc, hlost, rfl⟩, utc, hutc, hlost⟩

lemma not_losesReading_none : ¬unit.LosesReading none v :=
  exists_localDateTime?_iff.mp ⟨_, localDateTime?_none unit v⟩

/-- A clock is ahead by whole seconds, so it shows whole ticks. -/
lemma inTicks_of_localDateTime? (h : unit.localDateTime? old v = .ok (some reading)) :
    reading.InTicks unit := by
  obtain ⟨utc, hutc, rfl, -⟩ := localDateTime?_eq_ok_some_iff.mp h
  have hticks := inTicks_of_toDateTime? hutc
  exact ⟨DateTime.isReading_ofInstant _ _, hticks.nano_lt, hticks.nanos_dvd⟩

lemma inRange_of_localDateTime? (h : unit.localDateTime? old v = .ok (some reading)) :
    Calendar.inRange reading.day := by
  obtain ⟨-, -, -, hrange⟩ := localDateTime?_eq_ok_some_iff.mp h
  exact hrange

end TimeUnit

/-- That a type is one of instants in a zone. -/
def DataType.IsZoned : DataType → Prop
  | datetime _ (some _) => True
  | _ => False

/-- Only in a zone readings are lost. -/
lemma DataType.isZoned_of_losesReading (h : unit.LosesReading old v) : (datetime unit old).IsZoned := by
  cases old with
  | none => exact absurd h TimeUnit.not_losesReading_none
  | some zone => trivial

namespace Column

variable {β : Type} {f : DateTime → Except Fault β} {cell : Option Int64} {b : β}

lemma readingOf_eq_ok_none_iff : readingOf unit old cell = .ok none ↔
    ∀ v, cell = some v → unit.toDateTime? v = none := by
  cases cell with
  | none => simp [readingOf]
  | some v => simp [readingOf, TimeUnit.localDateTime?_eq_ok_none_iff]

lemma readingOf_eq_ok_some_iff : readingOf unit old cell = .ok (some reading) ↔
    ∃ v, cell = some v ∧ unit.localDateTime? old v = .ok (some reading) := by
  cases cell with
  | none => simp [readingOf]
  | some v => simp [readingOf]

lemma overReading_eq_ok_none_iff :
    overReading unit old f cell = .ok none ↔ readingOf unit old cell = .ok none := by
  rw [overReading, bind_eq_ok]
  constructor
  · rintro ⟨out, hout, hcell⟩
    cases out with
    | none => exact hout
    | some reading => simp [overCell] at hcell
  · intro h
    exact ⟨none, h, rfl⟩

lemma overReading_eq_ok_some_iff : overReading unit old f cell = .ok (some b) ↔
    ∃ reading, readingOf unit old cell = .ok (some reading) ∧ f reading = .ok b := by
  rw [overReading, bind_eq_ok]
  constructor
  · rintro ⟨out, hout, hcell⟩
    cases out with
    | none => simp [overCell] at hcell
    | some reading =>
      obtain ⟨b', hb', hsome⟩ := map_eq_ok.mp hcell
      obtain rfl := Option.some.inj hsome
      exact ⟨reading, hout, hb'⟩
  · rintro ⟨reading, hreading, hb⟩
    exact ⟨some reading, hreading, map_eq_ok.mpr ⟨b, hb, rfl⟩⟩

/-- A step on readings succeeds on a cell if the reading, should there be one, is not lost and the step
succeeds on it. -/
lemma exists_overReading_iff : (∃ out, overReading unit old f cell = .ok out) ↔
    ∀ v, cell = some v → ¬unit.LosesReading old v ∧
      ∀ reading, unit.localDateTime? old v = .ok (some reading) → ∃ b, f reading = .ok b := by
  cases cell with
  | none => exact iff_of_true ⟨none, rfl⟩ (by simp)
  | some v =>
    simp only [Option.some.injEq, forall_eq', ← TimeUnit.exists_localDateTime?_iff]
    simp only [overReading, readingOf, bind_eq_ok]
    constructor
    · rintro ⟨out, read, hread, hout⟩
      refine ⟨⟨read, hread⟩, ?_⟩
      rintro reading hreading
      obtain rfl := Except.ok.inj (hread.symm.trans hreading)
      obtain ⟨b, hb, -⟩ := map_eq_ok.mp hout
      exact ⟨b, hb⟩
    · rintro ⟨⟨read, hread⟩, hstep⟩
      cases read with
      | none => exact ⟨none, none, hread, rfl⟩
      | some reading =>
        obtain ⟨b, hb⟩ := hstep reading hread
        exact ⟨some b, some reading, hread, map_eq_ok.mpr ⟨b, hb, rfl⟩⟩

/-- A step on the reading of a cell fails for what the step fails for, or because the reading is lost. -/
lemma overReading_failsWith {P : Fault → Prop} (hf : ∀ reading, FailsWith P (f reading))
    (hlost : ∀ v, cell = some v → unit.LosesReading old v → ∀ fault : Fault, fault.OfReading → P fault) :
    FailsWith P (overReading unit old f cell) := by
  refine FailsWith.bind ?_ fun read _ => ?_
  · cases cell with
    | none => exact .ok none
    | some v =>
      exact (TimeUnit.localDateTime?_failsWith unit old v).mono fun fault h => hlost v rfl h.2 fault h.1
  · cases read with
    | none => exact .ok none
    | some reading => exact (hf reading).map some

end Column
end TimeTable
