import TimeTable.Proofs.Table.Extremes

/-!
# Where a NaN stands

The total order of floating-point numbers begins with the NaNs that have the sign bit, goes on with the
numbers and ends with the other NaNs. So a NaN stands behind all numbers if and only if it does not have
the sign bit.
-/

namespace TimeTable

namespace Binary64

variable {x y : Binary64}

/-- The part of the total order that a pattern lies in: the NaNs with the sign bit, the numbers, or the
other NaNs. -/
def rank (x : Binary64) : Nat := if x.isNaN then (if x.isNegative then 0 else 2) else 1

lemma rank_of_isNaN (h : x.isNaN = true) : x.rank = if x.isNegative then 0 else 2 := if_pos h

lemma rank_of_not_isNaN (h : x.isNaN = false) : x.rank = 1 := by simp [rank, h]

lemma rank_ne_one_iff : x.rank ≠ 1 ↔ x.isNaN = true := by
  cases hnan : x.isNaN with
  | false => simp [rank_of_not_isNaN hnan]
  | true => rw [rank_of_isNaN hnan]; split <;> simp

lemma rank_lt_of_isNegative (hx : x.isNaN = true) (hsign : x.isNegative = true)
    (hy : y.isNaN = false) : x.rank < y.rank := by
  simp [rank_of_isNaN hx, rank_of_not_isNaN hy, hsign]

lemma rank_lt_of_not_isNegative (hx : x.isNaN = true) (hsign : x.isNegative = false)
    (hy : y.isNaN = false) : y.rank < x.rank := by
  simp [rank_of_isNaN hx, rank_of_not_isNaN hy, hsign]

/-- Each part is an interval of the total order. -/
lemma rank_totalPlace (x : Binary64) :
    (x.rank = 0 ∧ x.totalPlace < -(infinite : Int) - 1) ∨
      (x.rank = 1 ∧ -(infinite : Int) - 1 ≤ x.totalPlace ∧ x.totalPlace ≤ infinite) ∨
      (x.rank = 2 ∧ (infinite : Int) < x.totalPlace) := by
  simp only [rank, totalPlace, isNaN, decide_eq_true_eq]
  by_cases hnan : infinite < x.magnitude
  · cases x.isNegative <;> simp [hnan]
  · cases x.isNegative <;> simp [hnan] <;> omega

lemma totalCompare_of_rank_lt (h : x.rank < y.rank) : x.totalCompare y = .lt := by
  rw [totalCompare, Int.compare_eq_lt]
  have hx := rank_totalPlace x
  have hy := rank_totalPlace y
  omega

lemma totalCompare_of_rank_gt (h : y.rank < x.rank) : x.totalCompare y = .gt := by
  rw [totalCompare, Int.compare_eq_gt]
  have hx := rank_totalPlace x
  have hy := rank_totalPlace y
  omega

lemma rank_le_of_totalCompare (h : (x.totalCompare y).isLE) : x.rank ≤ y.rank := by
  rw [totalCompare, Int.isLE_compare] at h
  have hx := rank_totalPlace x
  have hy := rank_totalPlace y
  omega

end Binary64

namespace Column

variable {name : String} {cells : List (Option Binary64)} {x y : Binary64} {a b : Nat}

lemma compareRows_float64 (ha : cells[a]? = some (some x)) (hb : cells[b]? = some (some y)) :
    (⟨name, .float64, cells⟩ : Column).compareRows a b = x.totalCompare y := by
  simp [compareRows, cell, ha, hb, compareNullsLast, DataType.compareCells]

/-- Among sorted cells the parts of the total order follow each other. -/
lemma lt_of_rank_lt
    (hsorted : cells.Pairwise fun x y => (compareNullsLast Binary64.totalCompare x y).isLE)
    (ha : cells[a]? = some (some x)) (hb : cells[b]? = some (some y)) (h : x.rank < y.rank) :
    a < b := by
  obtain ⟨ha', hx⟩ := List.getElem?_eq_some_iff.mp ha
  obtain ⟨hb', hy⟩ := List.getElem?_eq_some_iff.mp hb
  rcases Nat.lt_trichotomy a b with hlt | rfl | hlt
  · exact hlt
  · obtain rfl : x = y := Option.some.inj (hx.symm.trans hy)
    exact absurd h (Nat.lt_irrefl _)
  · have hle := List.pairwise_iff_getElem.mp hsorted b a hb' ha' hlt
    rw [hx, hy] at hle
    exact absurd (Binary64.rank_le_of_totalCompare hle) (Nat.not_le_of_lt h)

lemma compareRows_isNaN (ha : cells[a]? = some (some x)) (hx : x.isNaN = true)
    (hb : cells[b]? = some (some y)) (hy : y.isNaN = false) :
    (⟨name, .float64, cells⟩ : Column).compareRows a b = if x.isNegative then .lt else .gt := by
  rw [compareRows_float64 ha hb]
  cases hsign : x.isNegative with
  | true => exact Binary64.totalCompare_of_rank_lt (Binary64.rank_lt_of_isNegative hx hsign hy)
  | false => exact Binary64.totalCompare_of_rank_gt (Binary64.rank_lt_of_not_isNegative hx hsign hy)

/-- A NaN is the least value if and only if there is one with the sign bit or there is no number. -/
lemma isNaN_iff_of_rank_le (hx : some x ∈ cells) (hle : ∀ y, some y ∈ cells → x.rank ≤ y.rank) :
    x.isNaN = true ↔ (∃ y, some y ∈ cells ∧ y.isNaN = true ∧ y.isNegative = true) ∨
      ∀ y, some y ∈ cells → y.isNaN = true := by
  constructor
  · intro hnan
    cases hsign : x.isNegative with
    | true => exact .inl ⟨x, hx, hnan, hsign⟩
    | false =>
      refine .inr fun y hy => ?_
      have hrank := hle y hy
      rw [Binary64.rank_of_isNaN hnan, hsign] at hrank
      exact Binary64.rank_ne_one_iff.mp (by simp at hrank; omega)
  · rintro (⟨y, hy, hnan, hsign⟩ | hall)
    · have hrank := hle y hy
      rw [Binary64.rank_of_isNaN hnan, hsign] at hrank
      exact Binary64.rank_ne_one_iff.mp (by simp at hrank; omega)
    · exact hall x hx

/-- A NaN comes before all numbers if it has the sign bit and behind them if it does not, and before
missing cells in any case. So do the rows when a table is sorted upwards by the column, and the least
value is a NaN if and only if there is one with the sign bit or there is no number. -/
theorem nan_order (name : String) (cells : List (Option Binary64)) :
    let c : Column := ⟨name, .float64, cells⟩
    (∀ a b x, cells[a]? = some (some x) → x.isNaN = true →
      (∀ y, cells[b]? = some (some y) → y.isNaN = false →
        c.compareRows a b = if x.isNegative then .lt else .gt) ∧
      (cells[b]? = some none → c.compareRows a b = .lt)) ∧
    (∀ t : Table, c ∈ t.columns → ∃ out sorted, t.sort [name] false = .ok out ∧
      out.column name = .ok ⟨name, .float64, sorted⟩ ∧ sorted.Perm cells ∧
      ∀ (i j : Nat) (x y : Binary64), sorted[i]? = some (some x) → sorted[j]? = some (some y) →
        x.isNaN = true → y.isNaN = false → if x.isNegative then i < j else j < i) ∧
    ∃ least, c.reduce .min = .ok (DataType.float64.toScalarOrNull least) ∧
      ∀ x, least = some x →
        (x.isNaN = true ↔ (∃ y, some y ∈ cells ∧ y.isNaN = true ∧ y.isNegative = true) ∨
          ∀ y, some y ∈ cells → y.isNaN = true) := by
  intro c
  refine ⟨?_, ?_, ?_⟩
  · intro a b x ha hx
    refine ⟨fun y hb hy => compareRows_isNaN ha hx hb hy, fun hb => ?_⟩
    simp [compareRows, cell, c, ha, hb, compareNullsLast]
  · intro t hc
    -- Sorted cells ascend by rank, and the sign of a NaN says on which side of the numbers its rank is.
    obtain ⟨out, hout, hcolumn⟩ := Table.sort_column hc false
    have hsorted := pairwise_sortedCells c false
    refine ⟨out, c.sortedCells false, hout, hcolumn, sortedCells_perm c false, ?_⟩
    intro i j x y hi hj hx hy
    cases hsign : x.isNegative with
    | true => exact lt_of_rank_lt hsorted hi hj (Binary64.rank_lt_of_isNegative hx hsign hy)
    | false => exact lt_of_rank_lt hsorted hj hi (Binary64.rank_lt_of_not_isNegative hx hsign hy)
  · obtain ⟨least, hleast, hmem, hle⟩ := exists_extreme (c := c) rfl false .min
    refine ⟨least, hleast, ?_⟩
    rintro x rfl
    have hx : some x ∈ cells := hmem.resolve_right (by simp)
    exact isNaN_iff_of_rank_le hx fun y hy => Binary64.rank_le_of_totalCompare (hle (some y) hy)

/-- NaNs of both signs, a zero and a missing cell. -/
theorem nan_order_both_signs :
    let cells : List (Option Binary64) := [some .nan, some .negativeZero, none, some .invalid]
    let c : Column := ⟨"x", .float64, cells⟩
    ∃ (t out : Table) (sorted : List (Option Binary64)),
      cells[0]? = some (some .nan) ∧ Binary64.nan.isNaN = true ∧
      cells[1]? = some (some .negativeZero) ∧ Binary64.negativeZero.isNaN = false ∧
      cells[2]? = some none ∧ c.compareRows 0 1 = .gt ∧ c.compareRows 0 2 = .lt ∧
      c ∈ t.columns ∧ t.sort ["x"] false = .ok out ∧
      out.column "x" = .ok ⟨"x", .float64, sorted⟩ ∧ sorted.Perm cells ∧
      (∀ i j : Nat, sorted[i]? = some (some Binary64.nan) →
        sorted[j]? = some (some Binary64.negativeZero) → j < i) ∧
      c.reduce .min = .ok (.float64 .invalid) ∧
      ((∃ y, some y ∈ cells ∧ y.isNaN = true ∧ y.isNegative = true) ∨
        ∀ y, some y ∈ cells → y.isNaN = true) := by
  intro cells c
  let t : Table :=
    { columns := [c]
      sameHeight := by simp [SameHeight]
      distinctNames := by simp [DistinctNames] }
  have hc : c ∈ t.columns := List.mem_singleton.mpr rfl
  have hnan : Binary64.nan.isNaN = true := by decide
  have hzero : Binary64.negativeZero.isNaN = false := by decide
  have hmin : c.reduce .min = .ok (.float64 .invalid) := rfl
  obtain ⟨hrows, hsort, least, hleast, hiff⟩ := nan_order "x" cells
  obtain ⟨out, sorted, hout, hcolumn, hperm, hplaces⟩ := hsort t hc
  have hvalue : DataType.float64.toScalarOrNull least =
      DataType.float64.toScalarOrNull (some .invalid) := Except.ok.inj (hleast.symm.trans hmin)
  obtain rfl := toScalarOrNull_inj hvalue
  exact ⟨t, out, sorted, rfl, hnan, rfl, hzero, rfl, (hrows 0 1 _ rfl hnan).1 _ rfl hzero,
    (hrows 0 2 _ rfl hnan).2 rfl, hc, hout, hcolumn, hperm,
    fun i j hi hj => hplaces i j _ _ hi hj hnan hzero, hmin,
    (hiff _ rfl).mp (by decide)⟩

/-- The NaN that an invalid operation gives has the sign bit: it comes before the number one. -/
theorem nan_before_one :
    let one : Binary64 := ⟨0x3FF0000000000000⟩
    let c : Column := ⟨"x", .float64, [some one, some .invalid]⟩
    ∃ t : Table, t.columns = [c] ∧ one.isNaN = false ∧ Binary64.invalid.isNaN = true ∧
      c.compareRows 1 0 = .lt ∧ t.sort ["x"] false = .ok (t.take [1, 0]) ∧
      c.reduce .min = .ok (.float64 .invalid) := by
  intro one c
  let t : Table :=
    { columns := [c]
      sameHeight := by simp [SameHeight]
      distinctNames := by simp [DistinctNames] }
  have hrows : sortRows (Table.compareByKeys [c] false) (List.range t.height) = [1, 0] :=
    (sortRows_eq_iff List.pairwise_lt_range).mpr ⟨by decide, by decide⟩
  have hsort : t.sort ["x"] false = .ok (t.take [1, 0]) :=
    Table.sort_eq_ok_iff.mpr ⟨[c], rfl, by rw [hrows]⟩
  exact ⟨t, rfl, by decide, by decide, by decide, hsort, rfl⟩

end Column
end TimeTable
