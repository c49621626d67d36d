import TimeTable.Proofs.Calendar.Units
import TimeTable.Proofs.Column.Counts

/-!
# Casts to other units

A column of instants or durations is cast to another unit by counting each of its cells in that unit. A
cast to a finer unit loses nothing but may not fit, and a cast to a coarser one always fits and moves the
ticks toward zero. A third unit on the way makes no difference if it lies between the other two.
-/

namespace TimeTable

open Word

/-- What ticks are counts of: instants, in a zone or without one, or durations. -/
inductive TickType where
  | datetime (zone : Option Zone)
  | duration

namespace Column

variable {name : String} {type : TickType} {u middle target : TimeUnit} {c d : Column}
  {cells mids outs : List (Option Int64)}

/-- The column of instants or of durations with the given ticks. -/
def ofTicks (name : String) (type : TickType) (unit : TimeUnit) (cells : List (Option Int64)) : Column :=
  match type with
  | .datetime zone => ⟨name, .datetime unit zone, cells⟩
  | .duration => ⟨name, .duration unit, cells⟩

lemma counts_rescale (u target : TimeUnit) :
    Counts (rescale u target) fun v => u.countIn v.toInt target.nanos := by
  refine .of_eq_elim (fun v => .rescaleOverflow v u target) (fun v => rfl) ?_
  intro v
  rw [rescale, TimeUnit.rescale?, TimeUnit.scaled_eq_countIn]
  cases int64? (u.countIn v.toInt target.nanos) <;> rfl

lemma castTimeUnit_ofTicks (name : String) (type : TickType) (u target : TimeUnit)
    (cells : List (Option Int64)) :
    castTimeUnit target (ofTicks name type u cells) =
      (mapCells (rescale u target) cells).map (ofTicks name type target) := by
  cases type <;> exact bind_ok_eq_map _ _

lemma castTimeUnit_eq_ok_iff : castTimeUnit target (ofTicks name type u cells) = .ok d ↔
    ∃ outs, AreCounts (fun v => u.countIn v.toInt target.nanos) cells outs ∧
      ofTicks name type target outs = d := by
  rw [castTimeUnit_ofTicks, (counts_rescale u target).column_eq_ok_iff]

lemma exists_castTimeUnit_iff : (∃ d, castTimeUnit target (ofTicks name type u cells) = .ok d) ↔
    ∀ v, some v ∈ cells → Fits 64 (u.countIn v.toInt target.nanos) := by
  rw [castTimeUnit_ofTicks, (counts_rescale u target).exists_column_iff]

lemma castTimeUnit_onlyInvalid (name : String) (type : TickType) (u target : TimeUnit)
    (cells : List (Option Int64)) :
    OnlyInvalid (castTimeUnit target (ofTicks name type u cells)) := by
  rw [castTimeUnit_ofTicks]
  exact (counts_rescale u target).column_onlyInvalid cells _

lemma areCounts_between_iff (h : middle.IsBetween u target) :
    AreCounts (fun v => u.countIn v.toInt target.nanos) cells outs ↔
      ∃ mids, AreCounts (fun v => u.countIn v.toInt middle.nanos) cells mids ∧
        AreCounts (fun w => middle.countIn w.toInt target.nanos) mids outs := by
  simp only [← h.countIn_countIn]
  refine AreCounts.comp_iff (fun (v : Int64) => u.countIn v.toInt middle.nanos)
    (fun n => middle.countIn n target.nanos) fun (v : Int64) hfits => ?_
  rw [h.countIn_countIn] at hfits
  exact h.fits_countIn (fits_toInt v) hfits

/-- A unit between two others makes no difference on the way from one to the other. -/
lemma castTimeUnit_between (h : middle.IsBetween u target) (name : String) (type : TickType)
    (cells : List (Option Int64)) :
    SameOutcome (castTimeUnit middle (ofTicks name type u cells) >>= castTimeUnit target)
      (castTimeUnit target (ofTicks name type u cells)) := by
  -- Both ways fail alike, and the counts in the middle are bounded by those at an end, so they fit.
  refine .of_eq_ok_iff ?_ (castTimeUnit_onlyInvalid name type u target cells) ?_
  · refine (castTimeUnit_onlyInvalid name type u middle cells).bind fun e he => ?_
    obtain ⟨mids, -, rfl⟩ := castTimeUnit_eq_ok_iff.mp he
    exact castTimeUnit_onlyInvalid name type middle target mids
  · intro d
    simp only [bind_eq_ok, castTimeUnit_eq_ok_iff, areCounts_between_iff h]
    constructor
    · rintro ⟨e, ⟨mids, hmids, rfl⟩, hd⟩
      obtain ⟨outs, houts, rfl⟩ := castTimeUnit_eq_ok_iff.mp hd
      exact ⟨outs, ⟨mids, hmids, houts⟩, rfl⟩
    · rintro ⟨outs, ⟨mids, hmids, houts⟩, rfl⟩
      exact ⟨_, ⟨mids, hmids, rfl⟩, castTimeUnit_eq_ok_iff.mpr ⟨outs, houts, rfl⟩⟩

/-- A cast to a finer unit is taken back by the cast from there. -/
lemma castTimeUnit_of_finer (hfiner : target.nanos ≤ u.nanos)
    (h : castTimeUnit target (ofTicks name type u cells) = .ok d) :
    castTimeUnit u d = .ok (ofTicks name type u cells) := by
  obtain ⟨outs, houts, rfl⟩ := castTimeUnit_eq_ok_iff.mp h
  refine castTimeUnit_eq_ok_iff.mpr ⟨cells, houts.back (target.countIn · u.nanos) fun v => ?_, rfl⟩
  rw [TimeUnit.countIn_countIn u target v.toInt (.inl (TimeUnit.nanos_dvd hfiner)), TimeUnit.countIn_nanos]

/-- A cast to a coarser unit always exists and can be taken back, which moves the ticks toward zero to
multiples of the ratio of the units. -/
lemma exists_castTimeUnit_of_coarser (hcoarser : u.nanos ≤ target.nanos) (name : String) (type : TickType)
    (cells : List (Option Int64)) :
    ∃ d outs, castTimeUnit target (ofTicks name type u cells) = .ok d ∧
      castTimeUnit u d = .ok (ofTicks name type u outs) ∧
      AreCounts (fun v => v.toInt.tdiv (target.nanos / u.nanos : Nat) * (target.nanos / u.nanos : Nat))
        cells outs := by
  -- There and back again is the quotient times the ratio, which fits although the way there loses a rest.
  have hback : ∀ n, target.countIn (u.countIn n target.nanos) u.nanos =
      n.tdiv (target.nanos / u.nanos : Nat) * (target.nanos / u.nanos : Nat) := by
    intro n
    rw [TimeUnit.countIn_of_nanos_le n hcoarser, TimeUnit.countIn_of_le_nanos _ hcoarser]
  obtain ⟨outs, houts⟩ := exists_areCounts_iff.mpr fun (v : Int64) (_ : some v ∈ cells) =>
    (fits_toInt v).tdiv_mul (target.nanos / u.nanos)
  have hcounts := houts
  simp only [← hback] at hcounts
  rw [AreCounts.comp_iff (fun (v : Int64) => u.countIn v.toInt target.nanos)
    (fun n => target.countIn n u.nanos)] at hcounts
  · obtain ⟨mids, hmids, hlast⟩ := hcounts
    exact ⟨_, outs, castTimeUnit_eq_ok_iff.mpr ⟨mids, hmids, rfl⟩,
      castTimeUnit_eq_ok_iff.mpr ⟨outs, hlast, rfl⟩, houts⟩
  · intro v _
    exact TimeUnit.fits_countIn_of_nanos_le (fits_toInt v) hcoarser

/-- A cast to another unit counts each cell in that unit, in the order of the cells, and leaves the name,
the zone and missing cells as they are; it is invalid if a count does not fit. A cast to a finer unit is
taken back by the cast from there. A cast to a coarser unit always exists, and taken back it moves each cell
toward zero to a multiple of the ratio of the units, which is the cell only if it is such a multiple. On the
way from one unit to another, a unit that lies between them makes no difference. -/
theorem castTimeUnit_counts (name : String) (type : TickType) (unit : TimeUnit)
    (cells : List (Option Int64)) :
    let column (unit : TimeUnit) (cells : List (Option Int64)) : Column := ofTicks name type unit cells
    let c := column unit cells
    (∀ target : TimeUnit,
      ((∃ d, c.castTimeUnit target = .ok d) ↔
        ∀ v, some v ∈ cells → Fits 64 (unit.countIn v.toInt target.nanos)) ∧
      OnlyInvalid (c.castTimeUnit target) ∧
      ∀ d, c.castTimeUnit target = .ok d → ∃ outs, d = column target outs ∧
        AreCounts (fun v => unit.countIn v.toInt target.nanos) cells outs ∧
        ∀ (i j : Nat) (v v' w w' : Int64), cells[i]? = some (some v) → cells[j]? = some (some v') →
          outs[i]? = some (some w) → outs[j]? = some (some w') → v.toInt ≤ v'.toInt →
            w.toInt ≤ w'.toInt) ∧
    (∀ (finer : TimeUnit) (d : Column), finer.nanos ≤ unit.nanos → c.castTimeUnit finer = .ok d →
      d.castTimeUnit unit = .ok c) ∧
    (∀ coarser : TimeUnit, unit.nanos ≤ coarser.nanos →
      let ratio := coarser.nanos / unit.nanos
      ∃ d outs, c.castTimeUnit coarser = .ok d ∧ d.castTimeUnit unit = .ok (column unit outs) ∧
        AreCounts (fun v => v.toInt.tdiv ratio * ratio) cells outs ∧
        ∀ (i : Nat) (v w : Int64), cells[i]? = some (some v) → outs[i]? = some (some w) →
          (w = v ↔ (ratio : Int) ∣ v.toInt)) ∧
    ∀ middle target : TimeUnit, middle.IsBetween unit target →
      SameOutcome (c.castTimeUnit middle >>= castTimeUnit target) (c.castTimeUnit target) := by
  intro column c
  refine ⟨?_, ?_, ?_, ?_⟩
  · intro target
    refine ⟨exists_castTimeUnit_iff, castTimeUnit_onlyInvalid name type unit target cells, ?_⟩
    intro d hd
    obtain ⟨outs, houts, rfl⟩ := castTimeUnit_eq_ok_iff.mp hd
    refine ⟨outs, rfl, houts, ?_⟩
    intro i j v v' w w' hv hv' hw hw' hle
    rw [houts.toInt_eq hv hw, houts.toInt_eq hv' hw']
    exact unit.countIn_le_countIn target.nanos_pos hle
  · intro finer d hfiner hd
    exact castTimeUnit_of_finer hfiner hd
  · intro coarser hcoarser ratio
    obtain ⟨d, outs, hd, hback, houts⟩ := exists_castTimeUnit_of_coarser hcoarser name type cells
    refine ⟨d, outs, hd, hback, houts, ?_⟩
    intro i v w hv hw
    rw [← Int64.toInt_inj, houts.toInt_eq hv hw]
    constructor
    · intro hsame
      exact hsame ▸ Int.dvd_mul_left _ _
    · exact Int.tdiv_mul_cancel
  · intro middle target hbetween
    exact castTimeUnit_between hbetween name type cells

/-- Instants in nanoseconds, cast to milliseconds and back, directly or by way of microseconds; durations in
milliseconds, cast to nanoseconds and back; and the longest of them, which has no count in nanoseconds. -/
theorem castTimeUnit_counts_there_and_back :
    let utc : Zone := ⟨"UTC", default, []⟩
    let instants (unit : TimeUnit) (cells : List (Option Int64)) : Column :=
      ⟨"t", .datetime unit (some utc), cells⟩
    let durations (unit : TimeUnit) (cells : List (Option Int64)) : Column := ⟨"d", .duration unit, cells⟩
    let fine := instants .nanoseconds [none, some (-1500001), some 2000000]
    (∃ d back, fine.castTimeUnit .milliseconds = .ok d ∧
      d.castTimeUnit .nanoseconds = .ok (instants .nanoseconds back) ∧
      back = [none, some (-1000000), some 2000000]) ∧
    SameOutcome (fine.castTimeUnit .microseconds >>= castTimeUnit .milliseconds)
      (fine.castTimeUnit .milliseconds) ∧
    (castTimeUnit .nanoseconds (durations .milliseconds [some (-7)]) =
        .ok (durations .nanoseconds [some (-7000000)]) ∧
      castTimeUnit .milliseconds (durations .nanoseconds [some (-7000000)]) =
        .ok (durations .milliseconds [some (-7)])) ∧
    ¬∃ d, castTimeUnit .nanoseconds (durations .milliseconds [some Int64.maxValue]) = .ok d := by
  intro utc instants durations fine
  obtain ⟨-, -, hcoarser, hbetween⟩ := castTimeUnit_counts "t" (.datetime (some utc)) .nanoseconds
    [none, some (-1500001), some 2000000]
  have hfiner : castTimeUnit .nanoseconds (durations .milliseconds [some (-7)]) =
      .ok (durations .nanoseconds [some (-7000000)]) := rfl
  refine ⟨?_, hbetween .microseconds .milliseconds (by decide), ⟨hfiner, ?_⟩, ?_⟩
  · obtain ⟨d, back, hd, hback, hcounts, -⟩ := hcoarser .milliseconds (by decide)
    have hcast : fine.castTimeUnit .milliseconds =
        .ok (instants .milliseconds [none, some (-1), some 2]) := rfl
    obtain rfl := Except.ok.inj (hcast.symm.trans hd)
    obtain _ | ⟨hnone, _ | ⟨hfirst, _ | ⟨hsecond, _ | _⟩⟩⟩ := hcounts
    obtain _ | _ := hnone
    obtain hfirst | _ := hfirst
    obtain hsecond | _ := hsecond
    refine ⟨_, _, hd, hback, ?_⟩
    rw [Int64.toInt_inj.mp (hfirst.trans (by decide : _ = Int64.toInt (-1000000))),
      Int64.toInt_inj.mp (hsecond.trans (by decide : _ = Int64.toInt 2000000))]
  · exact (castTimeUnit_counts "d" .duration .milliseconds [some (-7)]).2.1 .nanoseconds _ (by decide) hfiner
  · intro hsome
    have hfits := ((castTimeUnit_counts "d" .duration .milliseconds [some Int64.maxValue]).1
      .nanoseconds).1.mp hsome
    exact absurd (hfits _ List.mem_cons_self) (by decide)

end Column
end TimeTable
