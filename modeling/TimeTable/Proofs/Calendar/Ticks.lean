import Mathlib.Tactic.Lemma
import TimeTable.Proofs.Calendar.Dates
import TimeTable.TimeUnit

/-!
# Ticks and dates

A date and time has the number of the tick it falls into: its nanoseconds since 1970, divided by those
of a tick and rounded down. The count is put together from the whole seconds and the rest, and the
whole seconds have to fit a word of their own. The least words of nanoseconds lie in a second that
begins before the first word, so they stand for dates and times that have no count.
-/

namespace TimeTable

/-- The nanoseconds since 1970-01-01 00:00:00. -/
def DateTime.nanosSinceEpoch (t : DateTime) : Int := t.instant * 1000000000 + t.nano

lemma DateTime.le_instant {t : DateTime} (ht : Calendar.inRange t.day) :
    -8334601228800 ≤ t.instant := by
  have hday : -96465292 ≤ t.day := (Calendar.inRange_iff.mp ht).1
  rw [instant]
  omega

/-- Whether a date and time is one that a clock shows: its seconds are those of a day. -/
def DateTime.IsReading (t : DateTime) : Prop := t.second < 86400

lemma DateTime.isReading_ofInstant (instant : Int) (nano : Nat) :
    (ofInstant instant nano).IsReading := by
  simp only [IsReading, ofInstant]
  omega

lemma DateTime.ofInstant_instant {t : DateTime} (h : t.IsReading) : ofInstant t.instant t.nano = t := by
  obtain ⟨day, second, nano⟩ := t
  have hsecond : second < 86400 := h
  simp only [ofInstant, instant, DateTime.mk.injEq, and_true]
  omega

/-- A reading of the clock of whole ticks. -/
structure DateTime.InTicks (t : DateTime) (u : TimeUnit) : Prop where
  isReading : t.IsReading
  nano_lt : t.nano < 1000000000
  nanos_dvd : u.nanos ∣ t.nano

namespace TimeUnit

variable {u : TimeUnit} {t : DateTime} {v : Int64}

/-- The number of the tick that a date and time falls into. -/
def tickOf (u : TimeUnit) (t : DateTime) : Int := t.nanosSinceEpoch / u.nanos

/-- The tick of a date and time is counted from the whole seconds and the nanoseconds behind them. -/
lemma tickOf_eq (u : TimeUnit) (t : DateTime) :
    u.tickOf t = t.instant * u.perSecond + (t.nano / u.nanos : Nat) := by
  cases u with
  | nanoseconds => simp only [tickOf, DateTime.nanosSinceEpoch, nanos, perSecond]; omega
  | microseconds => simp only [tickOf, DateTime.nanosSinceEpoch, nanos, perSecond]; omega
  | milliseconds => simp only [tickOf, DateTime.nanosSinceEpoch, nanos, perSecond]; omega

/-- A count is the number of the tick, and there is one if also the whole seconds fit a word. They can
only be too low, as what is behind them is not negative. -/
lemma ofDateTime?_eq_some_iff :
    u.ofDateTime? t = some v ↔
      v.toInt = u.tickOf t ∧ -0x8000000000000000 ≤ t.instant * u.perSecond := by
  rw [ofDateTime?, Option.bind_eq_bind, Option.bind_eq_some_iff, tickOf_eq]
  constructor
  · rintro ⟨whole, hwhole, hv⟩
    rw [Word.int64?_eq_some_iff] at hwhole hv
    rw [hv, hwhole]
    exact ⟨rfl, hwhole ▸ Int64.le_toInt whole⟩
  · rintro ⟨hv, hlow⟩
    -- Above, the whole seconds fit as soon as the count does: the rest only adds to them.
    have hhigh : t.instant * u.perSecond < 0x8000000000000000 := by
      have hword := Int64.toInt_lt v
      have hrest : (0 : Int) ≤ (t.nano / u.nanos : Nat) := Int.natCast_nonneg _
      omega
    refine ⟨Int64.ofInt (t.instant * u.perSecond), ?_, ?_⟩
    · rw [Word.int64?, if_pos ⟨hlow, hhigh⟩]
    · rw [Int64.toInt_ofInt_of_le (by omega) (by omega), Word.int64?_eq_some_iff]
      exact hv

/-- In range only the seconds of nanoseconds can be too low. -/
lemma le_wholeSeconds_iff (u : TimeUnit) (ht : Calendar.inRange t.day) :
    -0x8000000000000000 ≤ t.instant * u.perSecond ↔
      ¬(u = .nanoseconds ∧ t.instant < -9223372036) := by
  have hlow := DateTime.le_instant ht
  cases u with
  | nanoseconds => simp only [perSecond, true_and]; omega
  | microseconds => simp only [perSecond, reduceCtorEq, false_and, not_false_iff, iff_true]; omega
  | milliseconds => simp only [perSecond, reduceCtorEq, false_and, not_false_iff, iff_true]; omega

lemma ofDateTime?_eq_none_iff (ht : Calendar.inRange t.day) :
    u.ofDateTime? t = none ↔
      ¬(-0x8000000000000000 ≤ u.tickOf t ∧ u.tickOf t < 0x8000000000000000) ∨
        (u = .nanoseconds ∧ t.instant < -9223372036) := by
  rw [Option.eq_none_iff_forall_ne_some]
  simp only [ne_eq, ofDateTime?_eq_some_iff, le_wholeSeconds_iff u ht]
  constructor
  · intro h
    by_cases hfits : -0x8000000000000000 ≤ u.tickOf t ∧ u.tickOf t < 0x8000000000000000
    · right
      have hword := Int64.toInt_ofInt_of_le (n := u.tickOf t) (by omega) (by omega)
      exact Decidable.not_not.mp fun hlost => h _ ⟨hword, hlost⟩
    · exact .inl hfits
  · rintro hnone v ⟨hv, hkept⟩
    rcases hnone with hfits | hlost
    · exact hfits (hv ▸ ⟨Int64.le_toInt v, Int64.toInt_lt v⟩)
    · exact hkept hlost

/-- A count stands for a date and time in the tick of that number, in the second it falls into. -/
lemma tickOf_toDateTime? (h : u.toDateTime? v = some t) :
    u.tickOf t = v.toInt ∧ t.instant = v.toInt / u.perSecond ∧ Calendar.inRange t.day := by
  rw [toDateTime?, DateTime.check] at h
  split at h
  · next hrange =>
    obtain rfl := Option.some.inj h
    refine ⟨?_, DateTime.instant_ofInstant _ _, hrange⟩
    rw [tickOf_eq, DateTime.instant_ofInstant, DateTime.nano_ofInstant]
    cases u with
    | nanoseconds => simp only [nanos, perSecond]; omega
    | microseconds => simp only [nanos, perSecond]; omega
    | milliseconds => simp only [nanos, perSecond]; omega
  · exact nomatch h

lemma inTicks_of_toDateTime? (h : u.toDateTime? v = some t) : t.InTicks u := by
  rw [toDateTime?, DateTime.check, Option.ite_none_right_eq_some, Option.some.injEq] at h
  obtain ⟨-, rfl⟩ := h
  refine ⟨DateTime.isReading_ofInstant _ _, ?_, Nat.dvd_mul_left _ _⟩
  cases u with
  | nanoseconds => simp only [DateTime.nano_ofInstant, nanos, perSecond]; omega
  | microseconds => simp only [DateTime.nano_ofInstant, nanos, perSecond]; omega
  | milliseconds => simp only [DateTime.nano_ofInstant, nanos, perSecond]; omega

/-- The count of a date and time of whole ticks stands for it. -/
lemma toDateTime?_of_ofDateTime? (hticks : t.InTicks u) (hrange : Calendar.inRange t.day)
    (h : u.ofDateTime? t = some v) : u.toDateTime? v = some t := by
  obtain ⟨hreading, hnano, hdvd⟩ := hticks
  have hv : v.toInt = t.instant * u.perSecond + (t.nano / u.nanos : Nat) :=
    (ofDateTime?_eq_some_iff.mp h).1.trans (tickOf_eq u t)
  -- Quotient and remainder take the count apart again. The factors are numbers only unit by unit.
  have hseconds : v.toInt / u.perSecond = t.instant := by
    cases u with
    | nanoseconds => simp only [nanos, perSecond] at hv ⊢; omega
    | microseconds => simp only [nanos, perSecond] at hv ⊢; omega
    | milliseconds => simp only [nanos, perSecond] at hv ⊢; omega
  have hrest : (v.toInt % u.perSecond).toNat * u.nanos = t.nano := by
    cases u with
    | nanoseconds => simp only [nanos, perSecond] at hv hdvd ⊢; omega
    | microseconds => simp only [nanos, perSecond] at hv hdvd ⊢; omega
    | milliseconds => simp only [nanos, perSecond] at hv hdvd ⊢; omega
  rw [toDateTime?, hseconds, hrest, DateTime.ofInstant_instant hreading, DateTime.check, if_pos hrange]

/-- A date and time in range has a count if and only if the number of its tick fits a word, and this
number is the count, except that there is none in nanoseconds before the first second that begins with
a word. So every count comes back from the date and time that it stands for, except for the counts of
nanoseconds before that second. -/
theorem ofDateTime?_iff_floor (u : TimeUnit) (ht : Calendar.inRange t.day) :
    (∀ v, u.ofDateTime? t = some v ↔
      v.toInt = u.tickOf t ∧ ¬(u = .nanoseconds ∧ t.instant < -9223372036)) ∧
    (u.ofDateTime? t = none ↔
      ¬(-0x8000000000000000 ≤ u.tickOf t ∧ u.tickOf t < 0x8000000000000000) ∨
        (u = .nanoseconds ∧ t.instant < -9223372036)) ∧
    ∀ v, u.toDateTime? v = some t →
      (u.ofDateTime? t = some v ↔ ¬(u = .nanoseconds ∧ v.toInt < -9223372036000000000)) := by
  have hiff : ∀ v, u.ofDateTime? t = some v ↔
      v.toInt = u.tickOf t ∧ ¬(u = .nanoseconds ∧ t.instant < -9223372036) := by
    intro v
    rw [ofDateTime?_eq_some_iff, le_wholeSeconds_iff u ht]
  refine ⟨hiff, ofDateTime?_eq_none_iff ht, ?_⟩
  intro v hv
  obtain ⟨htick, hinstant, -⟩ := tickOf_toDateTime? hv
  rw [hiff, htick, hinstant]
  simp only [true_and, not_and]
  refine forall_congr' ?_
  rintro rfl
  simp only [perSecond]
  omega

/-- The millisecond before 1970. -/
theorem ofDateTime?_iff_floor_before_epoch :
    let t : DateTime := ⟨-1, 86399, 999000000⟩
    Calendar.inRange t.day ∧ toDateTime? .milliseconds (-1) = some t ∧
      tickOf .milliseconds t = -1 ∧ ofDateTime? .milliseconds t = some (-1) := by
  intro t
  have ht : Calendar.inRange t.day := by decide
  have hto : toDateTime? .milliseconds (-1) = some t := by decide
  obtain ⟨hiff, -, hback⟩ := ofDateTime?_iff_floor .milliseconds ht
  have hof : ofDateTime? .milliseconds t = some (-1) :=
    (hback (-1) hto).mpr fun h => nomatch h.1
  exact ⟨ht, hto, ((hiff (-1)).mp hof).1.symm, hof⟩

/-- The least count of nanoseconds stands for a date and time whose tick has that number, but which has
no count. -/
theorem ofDateTime?_minValue_nanoseconds :
    ∃ t : DateTime, toDateTime? .nanoseconds Int64.minValue = some t ∧ Calendar.inRange t.day ∧
      tickOf .nanoseconds t = Int64.minValue.toInt ∧ ofDateTime? .nanoseconds t = none :=
  ⟨⟨-106752, 763, 145224192⟩, by decide, by decide, by decide, by decide⟩

end TimeUnit
end TimeTable
