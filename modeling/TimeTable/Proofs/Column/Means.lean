import TimeTable.Proofs.Column.Sums
import TimeTable.Proofs.Table.Extremes

namespace TimeTable.Column

open Word Std

variable {c : Column} {rows : List Nat} {unit : TimeUnit} {vs : List Int64}

lemma toInt_foldl_add (start : BitVec 128) (vs : List Int64) :
    (vs.foldl (fun sum v => sum + v.toBitVec.signExtend 128) start).toInt =
      (start.toInt + total vs).bmod (2 ^ 128) := by
  induction vs generalizing start with
  | nil => rw [List.foldl_nil, total_nil, Int.add_zero, BitVec.toInt_bmod_cancel]
  | cons v vs ih =>
    rw [List.foldl_cons, ih, BitVec.toInt_add, Int.bmod_add_bmod,
      BitVec.toInt_signExtend_of_le (by decide), Int64.toInt_toBitVec, total_cons, Int.add_assoc]

/-- The wide sum of words is exact, unless there are too many of them. -/
lemma toInt_addWide (h : vs.length < 0x8000000000000000) : (addWide vs).toInt = total vs := by
  rw [addWide, toInt_foldl_add, BitVec.toInt_zero, Int.zero_add, (fits_128_total h).bmod_eq]

/-- The low word of a wide word is its value if that fits. -/
lemma toInt_setWidth_of_fits {x : BitVec 128} (h : Fits 64 x.toInt) : (x.setWidth 64).toInt = x.toInt := by
  have hdvd : 2 ^ 64 ∣ 2 ^ 128 := Nat.pow_dvd_pow 2 (by decide)
  rw [BitVec.toInt_setWidth, ← Int.bmod_bmod_of_dvd hdvd, ← BitVec.toInt_eq_toNat_bmod, h.bmod_eq]

/-- The mean of durations is the quotient of their total and their number. -/
lemma averageTicks_eq (unit : TimeUnit) (hne : vs ≠ []) (hlength : vs.length < 0x8000000000000000) :
    ∃ mean : Int64, averageTicks unit vs = .duration mean unit ∧
      mean.toInt = (total vs).tdiv vs.length := by
  refine ⟨_, by rw [averageTicks, if_neg (by simpa using hne)], ?_⟩
  -- The quotient fits a word, so neither the wide division nor the cut to a word changes it.
  have hfits := fits_64_total_tdiv_length hne
  have hnumber : (BitVec.ofNat 128 vs.length).toInt = vs.length := by
    have hlength' : Fits 64 (vs.length : Int) := fits_64_iff.mpr (by omega)
    rw [BitVec.toInt_ofNat', hlength'.widen.bmod_eq]
  have hquotient : ((addWide vs).sdiv (.ofNat 128 vs.length)).toInt = (total vs).tdiv vs.length := by
    rw [BitVec.toInt_sdiv, toInt_addWide hlength, hnumber, hfits.widen.bmod_eq]
  rw [Int64.toInt_ofBitVec, toInt_setWidth_of_fits (hquotient ▸ hfits), hquotient]

lemma amounts_mk_duration (name : String) (cells : List (Option (DataType.duration unit).Cell)) :
    amounts ⟨name, .duration unit, cells⟩ = cells.filterMap id := by
  rw [amounts_eq_map id fun _ => rfl, List.map_id]

lemma length_amounts_le (c : Column) : c.amounts.length ≤ c.length :=
  length_toScalars c ▸ List.length_filterMap_le _ _

lemma amounts_ne_nil (hdtype : c.dtype = .duration unit) (h : ∃ v ∈ c.toScalars, v ≠ .null) :
    c.amounts ≠ [] := by
  obtain ⟨name, dtype, cells⟩ := c
  subst hdtype
  rw [amounts_mk_duration]
  intro hnil
  obtain ⟨v, hv, hnull⟩ := h
  obtain ⟨cell, hcell, rfl⟩ := List.mem_map.mp hv
  have hnone := List.filterMap_eq_nil_iff.mp hnil cell hcell
  cases cell with
  | none => exact hnull rfl
  | some ticks => exact nomatch hnone

lemma reduce_mean_eq (hdtype : c.dtype = .duration unit) :
    c.reduce .mean = .ok (averageTicks unit c.amounts) := by
  obtain ⟨name, dtype, cells⟩ := c
  subst hdtype
  rw [amounts_mk_duration]
  rfl

/-- The extreme of durations is a duration that no other one comes before. -/
lemma exists_extreme_duration (hdtype : c.dtype = .duration unit) (hne : c.amounts ≠ [])
    (descending : Bool) (func : Reducer) :
    ∃ best, c.extreme (if descending then .gt else .lt) func = .ok (.duration best unit) ∧
      ∀ v ∈ c.amounts, if descending then v ≤ best else best ≤ v := by
  obtain ⟨name, dtype, cells⟩ := c
  subst hdtype
  rw [amounts_mk_duration] at hne ⊢
  obtain ⟨best, hbest, -, hle⟩ :=
    exists_extreme (c := ⟨name, .duration unit, cells⟩) rfl descending func
  -- An extreme that is missing would put all cells behind it, and then there would be no amounts.
  cases best with
  | none =>
    refine absurd (List.filterMap_eq_nil_iff.mpr fun cell hcell => ?_) hne
    exact isLE_none_iff.mp (hle cell hcell)
  | some ticks =>
    refine ⟨ticks, hbest, fun v hv => ?_⟩
    have hv' := hle (some v) (by simpa using hv)
    cases descending with
    | false => exact Int64.le_iff_toInt_le.mpr (Int.isLE_compare.mp hv')
    | true => exact Int64.le_iff_toInt_le.mpr (Int.isGE_compare.mp (Ordering.isLE_swap ▸ hv'))

/-- The mean of durations is their total divided by their number and cut toward zero. It lies between the
least and the greatest duration, no sum on the way to the total leaves the wide words, and the rows give
the same mean in any order. -/
theorem reduce_mean_exact (c : Column) (hdtype : c.dtype = .duration unit)
    (hlength : c.length < 0x8000000000000000) (hvalue : ∃ v ∈ c.toScalars, v ≠ .null) :
    ∃ least mean greatest : Int64,
      c.reduce .mean = .ok (.duration mean unit) ∧
      mean.toInt = (total c.amounts).tdiv c.amounts.length ∧
      c.reduce .min = .ok (.duration least unit) ∧ c.reduce .max = .ok (.duration greatest unit) ∧
      least ≤ mean ∧ mean ≤ greatest ∧
      (∀ vs, vs <+: c.amounts → Fits 128 (total vs)) ∧
      ∀ rows, rows.Perm (List.range c.length) → (c.take rows).reduce .mean = c.reduce .mean := by
  have hne := amounts_ne_nil hdtype hvalue
  have hfew := Nat.lt_of_le_of_lt (length_amounts_le c) hlength
  obtain ⟨mean, hmean, hquotient⟩ := averageTicks_eq unit hne hfew
  obtain ⟨least, hleast, hle⟩ := exists_extreme_duration hdtype hne false .min
  obtain ⟨greatest, hgreatest, hge⟩ := exists_extreme_duration hdtype hne true .max
  refine ⟨least, mean, greatest, by rw [reduce_mean_eq hdtype, hmean], hquotient, hleast, hgreatest,
    ?_, ?_, ?_, ?_⟩
  -- The quotient cuts towards zero, which does not lead past a bound of all values.
  · rw [Int64.le_iff_toInt_le, hquotient]
    exact le_total_tdiv_length hne fun v hv => Int64.le_iff_toInt_le.mp (hle v hv)
  · rw [Int64.le_iff_toInt_le, hquotient]
    exact total_tdiv_length_le hne fun v hv => Int64.le_iff_toInt_le.mp (hge v hv)
  · intro vs hvs
    exact fits_128_total (Nat.lt_of_le_of_lt hvs.length_le hfew)
  · intro rows hrows
    have hperm := amounts_take_perm hrows
    have hne' : (c.take rows).amounts ≠ [] := fun hnil => hne (hnil ▸ hperm).nil_eq.symm
    obtain ⟨mean', hmean', hquotient'⟩ := averageTicks_eq unit hne' (hperm.length_eq ▸ hfew)
    rw [hperm.length_eq, total_amounts_take hrows, ← hquotient, Int64.toInt_inj] at hquotient'
    rw [reduce_mean_eq hdtype, reduce_mean_eq (c := c.take rows) hdtype, hmean, hmean', hquotient']

/-- Two durations whose total is no word, and whose mean is cut upwards. -/
theorem reduce_mean_exact_least :
    let c : Column := ⟨"d", .duration .nanoseconds,
      [some Int64.minValue, none, some (Int64.minValue + 1)]⟩
    c.length < 0x8000000000000000 ∧ (∃ v ∈ c.toScalars, v ≠ .null) ∧ ¬ Fits 64 (total c.amounts) ∧
      c.reduce .mean = .ok (.duration (Int64.minValue + 1) .nanoseconds) ∧
      c.reduce .min = .ok (.duration Int64.minValue .nanoseconds) ∧
      Int64.minValue ≤ Int64.minValue + 1 ∧ (c.take [2, 1, 0]).reduce .mean = c.reduce .mean := by
  intro c
  have hlength : c.length < 0x8000000000000000 := by decide
  have hvalue : ∃ v ∈ c.toScalars, v ≠ .null := ⟨_, List.mem_cons_self, nofun⟩
  have hmean : c.reduce .mean = .ok (.duration (Int64.minValue + 1) .nanoseconds) := rfl
  have hmin : c.reduce .min = .ok (.duration Int64.minValue .nanoseconds) := rfl
  obtain ⟨least, mean, greatest, hmean', -, hmin', -, hle, -, -, horder⟩ :=
    reduce_mean_exact c rfl hlength hvalue
  obtain ⟨rfl, -⟩ := Scalar.duration.inj (Except.ok.inj (hmean'.symm.trans hmean))
  obtain ⟨rfl, -⟩ := Scalar.duration.inj (Except.ok.inj (hmin'.symm.trans hmin))
  exact ⟨hlength, hvalue, by decide, hmean, hmin, hle, horder [2, 1, 0] (by decide)⟩

end TimeTable.Column
