import TimeTable.Column.Reduce
import TimeTable.Proofs.Column.Rows
import TimeTable.Proofs.Totals

/-!
# Sums of columns

The sum of a column of integers or of durations is added from the left in words. It is exact, and there
is one if and only if every sum on the way to it fits a word. So its value does not depend on the order of
the rows, but whether there is one does: a total that fits is reached in some order.
-/

namespace TimeTable

open Word

/-- Whether the values of a type are amounts: integers or durations. -/
def DataType.isAmount : DataType → Bool
  | int64 | duration _ => true
  | _ => false

def DataType.ofAmount : DataType → Int64 → Scalar
  | duration unit, ticks => .duration ticks unit
  | _, v => .int64 v

def Scalar.amount? : Scalar → Option Int64
  | int64 v => some v
  | duration ticks _ => some ticks
  | _ => none

namespace Column

variable {c : Column} {rows : List Nat} {v : Scalar} {w : Int64} {vs : List Int64}

/-- The words of the amounts in a column, row by row. -/
def amounts (c : Column) : List Int64 := c.toScalars.filterMap Scalar.amount?

/-- The words of the values of a type whose values are amounts. -/
lemma amounts_eq_map {dtype : DataType} (word : dtype.Cell → Int64)
    (hword : ∀ v, (dtype.toScalar v).amount? = some (word v)) (name : String)
    (cells : List (Option dtype.Cell)) :
    amounts ⟨name, dtype, cells⟩ = (cells.filterMap id).map word := by
  show (cells.map dtype.toScalarOrNull).filterMap Scalar.amount? = (cells.filterMap id).map word
  rw [List.filterMap_map, List.map_filterMap]
  apply List.filterMap_congr
  intro cell _
  cases cell with
  | none => rfl
  | some v => exact hword v

lemma amounts_take (c : Column) (rows : List Nat) :
    (c.take rows).amounts = rows.filterMap fun row => (c.get row).amount? := by
  rw [amounts, toScalars_take, List.filterMap_map]
  rfl

lemma amounts_eq_filterMap_range (c : Column) :
    c.amounts = (List.range c.length).filterMap fun row => (c.get row).amount? := by
  rw [← amounts_take, take_range]

lemma amounts_take_perm (hrows : rows.Perm (List.range c.length)) :
    (c.take rows).amounts.Perm c.amounts := by
  rw [amounts_take, amounts_eq_filterMap_range]
  exact hrows.filterMap _

lemma total_amounts_take (hrows : rows.Perm (List.range c.length)) :
    total (c.take rows).amounts = total c.amounts :=
  total_perm (amounts_take_perm hrows)

/-- Added from the left to a word, words have a sum if and only if it fits at every step, and then it is
exact. -/
lemma foldlM_int64?_eq_some_iff {start : Int64} :
    vs.foldlM (fun sum v => int64? (sum.toInt + v.toInt)) start = some w ↔
      w.toInt = start.toInt + total vs ∧ ∀ ws, ws <+: vs → Fits 64 (start.toInt + total ws) := by
  -- The sum so far is general in the induction: each step takes one value into it and has to fit.
  induction vs generalizing start with
  | nil =>
    have hstart := fits_toInt start
    simp only [List.foldlM_nil, Option.pure_def, Option.some.injEq, List.prefix_nil, forall_eq,
      total_nil, Int.add_zero, hstart, and_true, Int64.toInt_inj, eq_comm]
  | cons v vs ih =>
    rw [List.foldlM_cons, Option.bind_eq_bind, Option.bind_eq_some_iff]
    constructor
    · rintro ⟨next, hnext, hw⟩
      obtain ⟨hsum, hfits⟩ := ih.mp hw
      rw [int64?_eq_some_iff] at hnext
      rw [hnext, Int.add_assoc] at hsum
      refine ⟨by rw [total_cons, hsum], fun ws hws => ?_⟩
      -- A beginning of the values is empty, where the sum is the one so far, or it has the first value in
      -- it.
      rcases List.prefix_cons_iff.mp hws with rfl | ⟨rest, rfl, hrest⟩
      · simpa using fits_toInt start
      · rw [total_cons, ← Int.add_assoc, ← hnext]
        exact hfits rest hrest
    · rintro ⟨hsum, hfits⟩
      have hfirst : Fits 64 (start.toInt + v.toInt) := by
        simpa using hfits [v] (by simp)
      obtain ⟨next, hnext⟩ := exists_toInt_eq_iff.mpr hfirst
      refine ⟨next, int64?_eq_some_iff.mpr hnext, ih.mpr ⟨?_, fun ws hws => ?_⟩⟩
      · rw [hnext, hsum, total_cons, Int.add_assoc]
      · have hlater := hfits (v :: ws) (by simpa using hws)
        rwa [total_cons, ← Int.add_assoc, ← hnext] at hlater

lemma addWords?_eq_some_iff : addWords? vs = some w ↔ w.toInt = total vs ∧ PartialSumsFit vs := by
  rw [addWords?, foldlM_int64?_eq_some_iff]
  simp only [Int64.toInt_zero, Int.zero_add, PartialSumsFit]

lemma exists_addWords?_iff : (∃ w, addWords? vs = some w) ↔ PartialSumsFit vs := by
  simp only [addWords?_eq_some_iff, exists_and_right, and_iff_right_iff_imp]
  intro h
  exact exists_toInt_eq_iff.mpr h.fits_total

/-- The sum of a column of amounts is that of their words. -/
lemma reduce_sum_eq (hdtype : c.dtype.isAmount) :
    c.reduce .sum = (addWords? c.amounts).elim (.error (.sumOverflow c.name))
      fun w => .ok (c.dtype.ofAmount w) := by
  obtain ⟨name, dtype, cells⟩ := c
  cases dtype with
  | int64 =>
    rw [amounts_eq_map id fun _ => rfl, List.map_id, reduce, sum]
    cases addWords? (cells.filterMap id) <;> rfl
  | duration unit =>
    rw [amounts_eq_map id fun _ => rfl, List.map_id, reduce, sum]
    cases addWords? (cells.filterMap id) <;> rfl
  | _ => exact absurd hdtype Bool.false_ne_true

lemma eq_ofAmount_iff {dtype : DataType} (hdtype : dtype.isAmount) :
    v = dtype.ofAmount w ↔ v.dtype = dtype ∧ v.amount? = some w := by
  cases dtype with
  | int64 => cases v <;> simp [DataType.ofAmount, Scalar.dtype, Scalar.amount?]
  | duration unit =>
    cases v <;> simp [DataType.ofAmount, Scalar.dtype, Scalar.amount?, and_comm]
  | _ => exact absurd hdtype Bool.false_ne_true

lemma reduce_sum_eq_ok_iff (hdtype : c.dtype.isAmount) :
    c.reduce .sum = .ok v ↔ v.dtype = c.dtype ∧
      (∃ w, v.amount? = some w ∧ w.toInt = total c.amounts) ∧ PartialSumsFit c.amounts := by
  have hsum : c.reduce .sum = .ok v ↔ ∃ w, addWords? c.amounts = some w ∧ v = c.dtype.ofAmount w := by
    rw [reduce_sum_eq hdtype]
    cases addWords? c.amounts <;> simp [eq_comm]
  rw [hsum]
  simp only [addWords?_eq_some_iff, eq_ofAmount_iff hdtype]
  constructor
  · rintro ⟨w, ⟨htotal, hfits⟩, htype, hw⟩
    exact ⟨htype, ⟨w, hw, htotal⟩, hfits⟩
  · rintro ⟨htype, ⟨w, hw, htotal⟩, hfits⟩
    exact ⟨w, ⟨htotal, hfits⟩, htype, hw⟩

lemma exists_reduce_sum_iff (hdtype : c.dtype.isAmount) :
    (∃ v, c.reduce .sum = .ok v) ↔ PartialSumsFit c.amounts := by
  rw [reduce_sum_eq hdtype, ← exists_addWords?_iff]
  cases addWords? c.amounts <;> simp

lemma exists_reduce_sum_error_iff (hdtype : c.dtype.isAmount) :
    (∃ fault, c.reduce .sum = .error fault ∧ fault.kind = .invalidOperation) ↔
      ¬ PartialSumsFit c.amounts := by
  rw [reduce_sum_eq hdtype, ← exists_addWords?_iff]
  cases addWords? c.amounts <;> simp [Fault.kind]

/-- The sum of integers or of durations, if there is one, is exact, and so it is the same for the rows in
any order. There is none if and only if some sum on the way to it does not fit a word, and this is an
invalid operation. The rows have an order in which there is a sum if and only if the total fits. -/
theorem reduce_sum_exact (c : Column) (hdtype : c.dtype.isAmount = true) :
    (∀ v, c.reduce .sum = .ok v ↔ v.dtype = c.dtype ∧
      (∃ w, v.amount? = some w ∧ w.toInt = total c.amounts) ∧ PartialSumsFit c.amounts) ∧
    ((∃ fault, c.reduce .sum = .error fault ∧ fault.kind = .invalidOperation) ↔
      ¬ PartialSumsFit c.amounts) ∧
    (∀ rows v w, rows.Perm (List.range c.length) → c.reduce .sum = .ok v →
      (c.take rows).reduce .sum = .ok w → w = v) ∧
    ((∃ rows v, rows.Perm (List.range c.length) ∧ (c.take rows).reduce .sum = .ok v) ↔
      Fits 64 (total c.amounts)) := by
  refine ⟨fun v => reduce_sum_eq_ok_iff hdtype, exists_reduce_sum_error_iff hdtype, ?_, ?_⟩
  · intro rows v w hrows hv hw
    obtain ⟨htype, ⟨n, hn, htotal⟩, -⟩ := (reduce_sum_eq_ok_iff hdtype).mp hv
    obtain ⟨htype', ⟨n', hn', htotal'⟩, -⟩ := (reduce_sum_eq_ok_iff (c := c.take rows) hdtype).mp hw
    rw [total_amounts_take hrows, ← htotal, Int64.toInt_inj] at htotal'
    rw [(eq_ofAmount_iff hdtype).mpr ⟨htype, hn⟩, (eq_ofAmount_iff hdtype).mpr ⟨htype', hn'⟩, htotal']
  · constructor
    · rintro ⟨rows, v, hrows, hv⟩
      have hfits := (exists_reduce_sum_iff (c := c.take rows) hdtype).mp ⟨v, hv⟩
      rw [← total_amounts_take hrows]
      exact hfits.fits_total
    -- A total that fits has an order in which no sum on the way leaves the range.
    · intro hfits
      rw [amounts_eq_filterMap_range] at hfits
      obtain ⟨rows, hrows, hpartial⟩ := exists_perm_partialSumsFit hfits
      rw [← amounts_take] at hpartial
      obtain ⟨v, hv⟩ := (exists_reduce_sum_iff (c := c.take rows) hdtype).mpr hpartial
      exact ⟨rows, v, hrows, hv⟩

/-- The greatest and the least duration, which have a sum. -/
theorem reduce_sum_exact_extremes :
    let c : Column := ⟨"d", .duration .milliseconds,
      [some Int64.maxValue, none, some Int64.minValue, some (-1), some 2]⟩
    c.dtype.isAmount = true ∧ PartialSumsFit c.amounts ∧
      c.reduce .sum = .ok (.duration 0 .milliseconds) := by
  intro c
  have hfits : PartialSumsFit c.amounts := by decide
  exact ⟨rfl, hfits, ((reduce_sum_exact c rfl).1 _).mpr ⟨rfl, ⟨0, rfl, rfl⟩, hfits⟩⟩

/-- Integers whose total fits, though not the sum of the first two of them: there is no sum, but in
another order there is. -/
theorem reduce_sum_of_fitting_total :
    let c : Column := ⟨"x", .int64, [some Int64.maxValue, some 1, some (-1)]⟩
    Fits 64 (total c.amounts) ∧
      (∃ fault, c.reduce .sum = .error fault ∧ fault.kind = .invalidOperation) ∧
      (c.take [0, 2, 1]).reduce .sum = .ok (.int64 Int64.maxValue) :=
  ⟨by decide, ⟨_, rfl, rfl⟩, rfl⟩

end Column
end TimeTable
