import TimeTable.Proofs.Column.UnitCasts

/-!
# Parts of durations

A part of a duration is its count in the unit of the part. The nanoseconds of a duration fit a word of
twice the width, so there the count is exact for each part. In the units of ticks it is what a cast gives,
and in a coarser part it is the quotient of the count in a finer one.
-/

namespace TimeTable

open Word

variable {part p q : DurationPart} {unit target : TimeUnit} {v : Int64}

namespace DurationPart

def ofUnit : TimeUnit → DurationPart
  | .nanoseconds => nanoseconds
  | .microseconds => microseconds
  | .milliseconds => milliseconds

@[simp] lemma nanos_ofUnit (u : TimeUnit) : (ofUnit u).nanos = u.nanos := by cases u <;> rfl

lemma nanos_pos (part : DurationPart) : 0 < part.nanos := by cases part <;> decide

/-- A coarser part consists of finer ones. -/
lemma nanos_dvd (h : q.nanos ≤ p.nanos) : q.nanos ∣ p.nanos := by
  revert h
  cases p <;> cases q <;> decide

/-- The count in a coarser part is the quotient of the count in a finer one. -/
lemma countIn_nanos (unit : TimeUnit) (n : Int) (h : q.nanos ≤ p.nanos) :
    (unit.countIn n q.nanos).tdiv (p.nanos / q.nanos : Nat) = unit.countIn n p.nanos := by
  rw [TimeUnit.countIn, TimeUnit.countIn, tdiv_tdiv, Nat.mul_div_cancel' (nanos_dvd h)]

end DurationPart

namespace Column

variable {name : String} {cells outs : List (Option Int64)} {c d : Column}

/-- A duration in a unit, calculated in words of twice the width. -/
def widePart (part : DurationPart) (unit : TimeUnit) (ticks : Int64) : BitVec 128 :=
  (ticks.toBitVec.signExtend 128 * .ofNat 128 unit.nanos).sdiv (.ofNat 128 part.nanos)

lemma natAbs_mul_nanos_le (unit : TimeUnit) (v : Int64) :
    (v.toInt * unit.nanos).natAbs ≤ 0x8000000000000000 * 1000000 := by
  have hlow := v.le_toInt
  have hhigh := v.toInt_lt
  cases unit <;> simp only [TimeUnit.nanos, TimeUnit.perSecond] <;> omega

lemma fits_128_of_natAbs_le {n : Int} (h : n.natAbs ≤ 0x8000000000000000 * 1000000) : Fits 128 n :=
  ⟨by omega, by omega⟩

/-- Neither the nanoseconds of a duration nor their quotient leaves the wide words. -/
lemma toInt_widePart (part : DurationPart) (unit : TimeUnit) (v : Int64) :
    (widePart part unit v).toInt = unit.countIn v.toInt part.nanos := by
  have hnanos := natAbs_mul_nanos_le unit v
  have hquotient := Nat.le_trans (Int.natAbs_tdiv_le_natAbs (v.toInt * unit.nanos) part.nanos) hnanos
  have hunit : (BitVec.ofNat 128 unit.nanos).toInt = unit.nanos := by cases unit <;> decide
  have hpart : (BitVec.ofNat 128 part.nanos).toInt = part.nanos := by cases part <;> decide
  rw [widePart, BitVec.toInt_sdiv, BitVec.toInt_mul, BitVec.toInt_signExtend_of_le (by decide),
    Int64.toInt_toBitVec, hunit, hpart, (fits_128_of_natAbs_le hnanos).bmod_eq,
    (fits_128_of_natAbs_le hquotient).bmod_eq, TimeUnit.countIn]

/-- A column of durations as one of integers. -/
def asIntegers : Column → Column
  | ⟨name, .duration _, cells⟩ => ⟨name, .int64, cells⟩
  | c => c

lemma counts_partOf (part : DurationPart) (unit : TimeUnit) :
    Counts (partOf part unit) fun v => unit.countIn v.toInt part.nanos := by
  refine .of_eq_elim (fun v => .partOverflow part v unit) (fun v => rfl) ?_
  intro v
  rw [partOf, ← TimeUnit.countIn]
  cases int64? (unit.countIn v.toInt part.nanos) <;> rfl

lemma durationPart_duration (part : DurationPart) (unit : TimeUnit) (name : String)
    (cells : List (Option Int64)) :
    durationPart part ⟨name, .duration unit, cells⟩ =
      (mapCells (partOf part unit) cells).map (Column.mk name .int64) :=
  bind_ok_eq_map _ _

lemma durationPart_eq_ok_iff : durationPart part ⟨name, .duration unit, cells⟩ = .ok d ↔
    ∃ outs, AreCounts (fun v => unit.countIn v.toInt part.nanos) cells outs ∧ ⟨name, .int64, outs⟩ = d := by
  rw [durationPart_duration, (counts_partOf part unit).column_eq_ok_iff]

lemma durationPart_onlyInvalid (part : DurationPart) (unit : TimeUnit) (name : String)
    (cells : List (Option Int64)) : OnlyInvalid (durationPart part ⟨name, .duration unit, cells⟩) := by
  rw [durationPart_duration]
  exact (counts_partOf part unit).column_onlyInvalid cells _

/-- In the unit of a cast, a part gives the integers that the cast gives. -/
lemma durationPart_ofUnit (target unit : TimeUnit) (name : String) (cells : List (Option Int64)) :
    SameOutcome (durationPart (.ofUnit target) ⟨name, .duration unit, cells⟩)
      ((castTimeUnit target ⟨name, .duration unit, cells⟩).map asIntegers) := by
  have hpart := counts_partOf (.ofUnit target) unit
  rw [DurationPart.nanos_ofUnit] at hpart
  have hcast := castTimeUnit_ofTicks name .duration unit target cells
  rw [ofTicks] at hcast
  rw [durationPart_duration, hcast, map_map]
  exact hpart.sameOutcome (counts_rescale unit target) cells _

/-- A coarser part gives the quotients of what a finer part gives. -/
lemma exists_durationPart_of_finer (hle : q.nanos ≤ p.nanos)
    (hq : AreCounts (fun v => unit.countIn v.toInt q.nanos) cells outs) (name : String) :
    ∃ outs', durationPart p ⟨name, .duration unit, cells⟩ = .ok ⟨name, .int64, outs'⟩ ∧
      AreCounts (fun w => w.toInt.tdiv (p.nanos / q.nanos : Nat)) outs outs' := by
  have hratio : 1 ≤ p.nanos / q.nanos := Nat.div_pos hle q.nanos_pos
  have hfits : ∀ w : Int64, some w ∈ outs → Fits 64 (w.toInt.tdiv (p.nanos / q.nanos : Nat)) := by
    intro w _
    refine Fits.tdiv_of_le Nat.one_pos hratio ?_
    rw [Int.natCast_one, Int.tdiv_one]
    exact fits_toInt w
  obtain ⟨outs', houts'⟩ := exists_areCounts_iff.mpr hfits
  have hcounts := (hq.next_iff fun n => n.tdiv (p.nanos / q.nanos : Nat)).mp houts'
  simp only [DurationPart.countIn_nanos unit _ hle] at hcounts
  exact ⟨outs', durationPart_eq_ok_iff.mpr ⟨outs', hcounts, rfl⟩, houts'⟩

/-- A part of durations is their count in its unit, which wide words hold at every step, and it is invalid
if one of the counts does not fit a word. In the unit of a cast it comes to the same integers as the cast.
If a finer part fits, then so does a coarser one, which is the quotient by the ratio of the two. -/
theorem durationPart_counts (unit : TimeUnit) (name : String) (cells : List (Option Int64)) :
    let c : Column := ⟨name, .duration unit, cells⟩
    (∀ part : DurationPart,
      ((∃ d, c.durationPart part = .ok d) ↔
        ∀ v, some v ∈ cells → Fits 64 (unit.countIn v.toInt part.nanos)) ∧
      OnlyInvalid (c.durationPart part) ∧
      (∀ d, c.durationPart part = .ok d → ∃ outs, d = ⟨name, .int64, outs⟩ ∧
        AreCounts (fun v => unit.countIn v.toInt part.nanos) cells outs) ∧
      ∀ v : Int64, Fits 128 (v.toInt * unit.nanos) ∧
        (widePart part unit v).toInt = unit.countIn v.toInt part.nanos) ∧
    (∀ target : TimeUnit, SameOutcome (c.durationPart (.ofUnit target))
      ((c.castTimeUnit target).map asIntegers)) ∧
    ∀ (p q : DurationPart) (outs : List (Option Int64)), q.nanos ≤ p.nanos →
      c.durationPart q = .ok ⟨name, .int64, outs⟩ →
        ∃ outs', c.durationPart p = .ok ⟨name, .int64, outs'⟩ ∧
          AreCounts (fun w => w.toInt.tdiv (p.nanos / q.nanos : Nat)) outs outs' := by
  intro c
  refine ⟨?_, fun target => durationPart_ofUnit target unit name cells, ?_⟩
  · intro part
    refine ⟨?_, durationPart_onlyInvalid part unit name cells, ?_, ?_⟩
    · rw [durationPart_duration, (counts_partOf part unit).exists_column_iff]
    · intro d hd
      obtain ⟨outs, houts, rfl⟩ := durationPart_eq_ok_iff.mp hd
      exact ⟨outs, rfl, houts⟩
    · intro v
      exact ⟨fits_128_of_natAbs_le (natAbs_mul_nanos_le unit v), toInt_widePart part unit v⟩
  -- The finer count has kept all that the coarser one needs: to truncate twice is to truncate once.
  · intro p q outs hle hq
    obtain ⟨outs', houts', hsame⟩ := durationPart_eq_ok_iff.mp hq
    obtain rfl : outs' = outs := by simpa using hsame
    exact exists_durationPart_of_finer hle houts' name

/-- The longest durations in milliseconds: their microseconds do not fit, as little as the ticks of a cast,
but the seconds are the quotients of the milliseconds. -/
theorem durationPart_counts_longest :
    let c : Column := ⟨"d", .duration .milliseconds, [some Int64.minValue, none, some Int64.maxValue]⟩
    (¬∃ d, c.durationPart .microseconds = .ok d) ∧ (¬∃ d, c.castTimeUnit .microseconds = .ok d) ∧
      c.durationPart .milliseconds = .ok ⟨"d", .int64, [some Int64.minValue, none, some Int64.maxValue]⟩ ∧
      ∃ outs, c.durationPart .seconds = .ok ⟨"d", .int64, outs⟩ ∧
        AreCounts (fun w => w.toInt.tdiv 1000) [some Int64.minValue, none, some Int64.maxValue] outs := by
  intro c
  obtain ⟨hparts, hcasts, hfiner⟩ := durationPart_counts .milliseconds "d"
    [some Int64.minValue, none, some Int64.maxValue]
  have hmilliseconds : c.durationPart .milliseconds =
      .ok ⟨"d", .int64, [some Int64.minValue, none, some Int64.maxValue]⟩ := rfl
  have hmicroseconds : ¬∃ d, c.durationPart .microseconds = .ok d := by
    intro hsome
    exact absurd ((hparts .microseconds).1.mp hsome Int64.minValue List.mem_cons_self) (by decide)
  refine ⟨hmicroseconds, ?_, hmilliseconds, hfiner .seconds .milliseconds _ (by decide) hmilliseconds⟩
  rintro ⟨d, hd⟩
  exact hmicroseconds ⟨_, ((hcasts .microseconds).eq_ok_iff _).mpr (map_eq_ok.mpr ⟨d, hd, rfl⟩)⟩

end Column
end TimeTable
