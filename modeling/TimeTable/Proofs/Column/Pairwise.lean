import TimeTable.Expr.Eval
import TimeTable.Proofs.Column.Rows

/-!
# Operations on pairs of cells

A comparison or an operation of arithmetic looks at the types of both columns first. Some it refuses; on
any others it works on each pair of cells by itself, a column of one row standing for all rows.
-/

namespace TimeTable.Column

variable {l r c : Column} {n i : Nat} {sl sr : Bool}

/-! ### Bringing two columns to one height -/

/-- The row of a column, of a single row or not, that stands at a row. -/
def rowAt (single : Bool) (row : Nat) : Nat := if single then 0 else row

/-- The height that two columns are brought to: a single row only if both have one. -/
def pairHeight (sl sr : Bool) (n : Nat) : Nat := if sl && sr then 1 else n

lemma length_left (hl : l.length = if sl then 1 else n) :
    l.length = if sl then 1 else pairHeight sl sr n := by
  cases sl with
  | true => exact hl
  | false => exact hl

lemma length_right (hr : r.length = if sr then 1 else n) :
    r.length = if sr then 1 else pairHeight sl sr n := by
  cases sr with
  | true => exact hr
  | false => cases sl <;> exact hr

/-- A column brought to a height that it has, or to which a single row is repeated. -/
lemma length_broadcast (h : c.length = if sl then 1 else n) : (c.broadcast n).length = n := by
  by_cases hn : c.length = n
  · rw [broadcast_of_length_eq hn, hn]
  · cases sl with
    | false => exact absurd h hn
    | true =>
      have hone : c.length = 1 := h
      rw [broadcast_of_length_eq_one hone (hone ▸ Ne.symm hn), length_take, List.length_replicate]

lemma get_broadcast (h : c.length = if sl then 1 else n) (hi : i < n) :
    (c.broadcast n).get i = c.get (rowAt sl i) := by
  cases sl with
  | false =>
    have hn : c.length = n := h
    rw [broadcast_of_length_eq hn, rowAt, if_neg Bool.false_ne_true]
  | true =>
    have hone : c.length = 1 := h
    by_cases hn : n = 1
    · subst hn
      rw [broadcast_of_length_eq hone, Nat.lt_one_iff.mp hi, rowAt, if_pos rfl]
    · rw [broadcast_of_length_eq_one hone hn]
      exact get_take (List.getElem?_replicate_of_lt hi)

/-- Columns that are single rows or of one height are brought to one height. -/
lemma broadcastPair_eq_ok (hl : l.length = if sl then 1 else n) (hr : r.length = if sr then 1 else n) :
    broadcastPair l r =
      .ok (l.broadcast (pairHeight sl sr n), r.broadcast (pairHeight sl sr n)) := by
  rw [broadcastPair]
  by_cases heq : l.length = r.length
  · -- A single row beside a column of one row is not repeated.
    have hheight : l.length = pairHeight sl sr n := by
      cases sl with
      | true => cases sr with
        | true => exact hl
        | false => exact heq.trans hr
      | false => exact hl
    rw [if_pos heq, broadcast_of_length_eq hheight, broadcast_of_length_eq (heq ▸ hheight)]
  · rw [if_neg heq]
    cases sl with
    | true => cases sr with
      | true => exact absurd (hl.trans hr.symm) heq
      | false =>
        have hone : l.length = 1 := hl
        have hn : r.length = pairHeight true false n := hr
        rw [if_pos hone, ← hn, broadcast_of_length_eq (c := r) rfl]
    | false => cases sr with
      | true =>
        have hone : r.length = 1 := hr
        have hn : l.length = pairHeight false true n := hl
        rw [if_neg (fun h => heq (h.trans hone.symm)), if_pos hone, ← hn,
          broadcast_of_length_eq (c := l) rfl]
      | false => exact absurd (hl.trans hr.symm) heq

/-- The value that stands at a kept row is the one that stood there before. -/
lemma get_onRows {rows : List Nat} {row : Nat} (h : rows[i]? = some row) :
    (c.onRows sl rows).get (rowAt sl i) = c.get (rowAt sl row) := by
  cases sl with
  | true => rfl
  | false => exact get_take h

/-! ### Working on pairs -/

/-- Two columns brought to one height and a step taken on each pair of values. -/
def combine (target : DataType) (step : Scalar → Scalar → Except Fault (Option target.Cell))
    (l r : Column) : Except Fault Column := do
  let (l', r') ← broadcastPair l r
  ((l'.toScalars.zip r'.toScalars).mapM fun p => step p.1 p.2).map (Column.mk l.name target)

/-- The steps are taken row by row. -/
lemma combine_eq_mapM {target : DataType}
    {step : Scalar → Scalar → Except Fault (Option target.Cell)}
    (hl : l.length = if sl then 1 else n) (hr : r.length = if sr then 1 else n) :
    combine target step l r = ((List.range (pairHeight sl sr n)).mapM fun row =>
      step (l.get (rowAt sl row)) (r.get (rowAt sr row))).map (Column.mk l.name target) := by
  have hl' : l.length = if sl then 1 else pairHeight sl sr n := length_left hl
  have hr' : r.length = if sr then 1 else pairHeight sl sr n := length_right hr
  -- Both columns are brought to one height, so their values stand side by side row by row.
  have hzip : (l.broadcast (pairHeight sl sr n)).toScalars.zip
      (r.broadcast (pairHeight sl sr n)).toScalars =
        (List.range (pairHeight sl sr n)).map fun row =>
          (l.get (rowAt sl row), r.get (rowAt sr row)) := by
    rw [toScalars_eq_map_get, toScalars_eq_map_get, length_broadcast hl', length_broadcast hr',
      List.zip_map']
    refine List.map_congr_left fun row hrow => ?_
    have hlt := List.mem_range.mp hrow
    rw [get_broadcast hl' hlt, get_broadcast hr' hlt]
  rw [combine, broadcastPair_eq_ok hl hr, ok_bind]
  dsimp only
  rw [hzip, List.mapM_map]
  rfl

/-- Steps on pairs give one cell for each row. -/
lemma combine_eq_ok {target : DataType} {step : Scalar → Scalar → Except Fault (Option target.Cell)}
    (hl : l.length = if sl then 1 else n) (hr : r.length = if sr then 1 else n)
    (hc : combine target step l r = .ok c) :
    c.name = l.name ∧ c.length = pairHeight sl sr n ∧ c.dtype = target := by
  rw [combine_eq_mapM hl hr] at hc
  obtain ⟨cells, hcells, rfl⟩ := map_eq_ok.mp hc
  refine ⟨rfl, ?_, rfl⟩
  show cells.length = _
  rw [← (mapM_eq_ok_iff.mp hcells).length_eq, List.length_range]

/-- Steps on pairs give on rows what they give there on whole columns. -/
lemma combine_onRows {target : DataType} {rows : List Nat}
    {step : Scalar → Scalar → Except Fault (Option target.Cell)}
    (hl : l.length = if sl then 1 else n) (hr : r.length = if sr then 1 else n)
    (hrows : ∀ row ∈ rows, row < n) (hc : combine target step l r = .ok c) :
    combine target step (l.onRows sl rows) (r.onRows sr rows) =
      .ok (c.onRows (sl && sr) rows) := by
  by_cases hs : (sl && sr) = true
  · obtain ⟨rfl, rfl⟩ : sl = true ∧ sr = true := by simpa using hs
    exact hc
  · have hheight : ∀ m, pairHeight sl sr m = m := fun m => if_neg hs
    rw [combine_eq_mapM hl hr, hheight] at hc
    obtain ⟨cells, hcells, rfl⟩ := map_eq_ok.mp hc
    rw [combine_eq_mapM (length_onRows hl) (length_onRows hr), hheight, Bool.eq_false_iff.mpr hs,
      onRows_false, name_onRows]
    rw [mapM_range_eq fun i row hrow => by rw [get_onRows hrow, get_onRows hrow],
      mapM_rows hcells hrows, map_ok, take_eq]
    rfl

/-! ### Columns that fit each other -/

/-- Whether two columns can be brought to one height: they have one, or one of them has a single row. -/
def Fit (l r : Column) : Prop := l.length = r.length ∨ l.length = 1 ∨ r.length = 1

/-- The height that two columns are brought to. -/
def commonHeight (l r : Column) : Nat := if l.length = 1 then r.length else l.length

/-- The value that stands at a row of a column, a single row standing for all rows. -/
def valueAt (c : Column) (row : Nat) : Scalar := c.get (if c.length = 1 then 0 else row)

lemma Fit.symm (h : Fit l r) : Fit r l := by
  rcases h with h | h | h
  · exact .inl h.symm
  · exact .inr (.inr h)
  · exact .inr (.inl h)

lemma Fit.commonHeight_comm (h : Fit l r) : commonHeight r l = commonHeight l r := by
  rw [commonHeight, commonHeight]
  by_cases hl : l.length = 1
  · rw [if_pos hl]
    split
    · next hr => exact hl.trans hr.symm
    · rfl
  · rw [if_neg hl]
    split
    · rfl
    · next hr => exact (h.resolve_right (not_or.mpr ⟨hl, hr⟩)).symm

lemma exists_valueAt_eq (c : Column) (row : Nat) :
    ∃ cell, c.dtype.toScalarOrNull cell = c.valueAt row :=
  exists_get_eq c _

/-- On columns that fit each other the steps are taken on the values that stand at each row. -/
lemma combine_of_fit {target : DataType}
    {step : Scalar → Scalar → Except Fault (Option target.Cell)} (h : Fit l r) :
    combine target step l r = ((List.range (commonHeight l r)).mapM fun row =>
      step (l.valueAt row) (r.valueAt row)).map (Column.mk l.name target) := by
  -- Columns that fit have the shape of two expressions: a column of one row counts as a single value.
  have hl : l.length = if decide (l.length = 1) then 1 else commonHeight l r := by
    by_cases hl : l.length = 1
    · rw [if_pos (decide_eq_true hl), hl]
    · rw [if_neg (by simpa using hl), commonHeight, if_neg hl]
  have hr : r.length = if decide (r.length = 1) then 1 else commonHeight l r := by
    by_cases hr : r.length = 1
    · rw [if_pos (decide_eq_true hr), hr]
    · rw [if_neg (by simpa using hr), ← h.commonHeight_comm, commonHeight, if_neg hr]
  have hheight : pairHeight (decide (l.length = 1)) (decide (r.length = 1)) (commonHeight l r) =
      commonHeight l r := by
    rw [pairHeight]
    split
    · next hboth =>
      rw [Bool.and_eq_true, decide_eq_true_eq, decide_eq_true_eq] at hboth
      rw [commonHeight, if_pos hboth.1, hboth.2]
    · rfl
  rw [combine_eq_mapM hl hr, hheight]
  simp only [rowAt, decide_eq_true_eq, valueAt]

/-- How an operation acts on columns of two types: without a type of its results it fails whatever the
columns hold, and otherwise it works on each pair of values. -/
def Pairwise (op : Column → Column → Except Fault Column) (ltype rtype : DataType) :
    Option DataType → Prop
  | none => ∀ l r, l.dtype = ltype → r.dtype = rtype → ∃ fault, op l r = .error fault
  | some target => ∃ step : Scalar → Scalar → Except Fault (Option target.Cell),
    ∀ l r, l.dtype = ltype → r.dtype = rtype → op l r = combine target step l r

/-- An operation on pairs that has a result has a type of its results, and combined each pair. -/
lemma Pairwise.exists_step {op : Column → Column → Except Fault Column} {out : Option DataType}
    (h : Pairwise op l.dtype r.dtype out) (hc : op l r = .ok c) :
    ∃ (target : DataType) (step : Scalar → Scalar → Except Fault (Option target.Cell)),
      out = some target ∧
      (∀ l' r', l'.dtype = l.dtype → r'.dtype = r.dtype → op l' r' = combine target step l' r') ∧
      combine target step l r = .ok c := by
  cases out with
  | none =>
    obtain ⟨fault, hfault⟩ := h l r rfl rfl
    exact nomatch hc.symm.trans hfault
  | some target =>
    obtain ⟨step, hstep⟩ := h
    exact ⟨target, step, rfl, hstep, (hstep l r rfl rfl).symm.trans hc⟩

/-- An operation on pairs keeps the name of its left operand, and gives the type it promises. -/
lemma Pairwise.eq_ok {op : Column → Column → Except Fault Column} {out : Option DataType}
    (h : Pairwise op l.dtype r.dtype out) (hl : l.length = if sl then 1 else n)
    (hr : r.length = if sr then 1 else n) (hc : op l r = .ok c) :
    c.name = l.name ∧ c.length = pairHeight sl sr n ∧ out = some c.dtype := by
  obtain ⟨target, step, rfl, -, hcombine⟩ := h.exists_step hc
  obtain ⟨hname, hlength, hdtype⟩ := combine_eq_ok hl hr hcombine
  exact ⟨hname, hlength, congrArg some hdtype.symm⟩

/-- An operation on pairs gives on rows what it gives there on whole columns. -/
lemma Pairwise.onRows {op : Column → Column → Except Fault Column} {out : Option DataType}
    {rows : List Nat} (h : Pairwise op l.dtype r.dtype out) (hl : l.length = if sl then 1 else n)
    (hr : r.length = if sr then 1 else n) (hrows : ∀ row ∈ rows, row < n) (hc : op l r = .ok c) :
    op (l.onRows sl rows) (r.onRows sr rows) = .ok (c.onRows (sl && sr) rows) := by
  obtain ⟨target, step, -, hstep, hcombine⟩ := h.exists_step hc
  rw [hstep _ _ (dtype_onRows sl rows l) (dtype_onRows sr rows r)]
  exact combine_onRows hl hr hrows hcombine

/-- A step that cannot fail on the pairs of a list. -/
lemma zipWith_eq_mapM {α β γ : Type} (f : α → β → γ) (xs : List α) (ys : List β) :
    (xs.zip ys).mapM (fun p => (.ok (f p.1 p.2) : Except Fault γ)) = .ok (List.zipWith f xs ys) := by
  rw [mapM_ok, List.map_zip_eq_zipWith]
  rfl

def compareType? (ltype rtype : DataType) : Option DataType :=
  if comparable ltype rtype then some .boolean else none

/-- The type of an operation of arithmetic. -/
def arithmeticType? (op : Arithmetic) (ltype rtype : DataType) : Option DataType :=
  if isOperand ltype && isOperand rtype then
    if op ≠ .div ∧ ltype ≠ .float64 ∧ rtype ≠ .float64 then some .int64 else some .float64
  else none

lemma compare_eq_combine (op : Comparison) (h : comparable l.dtype r.dtype = true) :
    l.compare op r = combine .boolean (fun v w => .ok (compareCell op v w)) l r := by
  simp only [compare, if_pos h, combine, zipWith_eq_mapM, map_ok]

/-- Arithmetic without a division and without floating-point numbers works on integers. -/
lemma arithmetic_eq_combine {op : Arithmetic} (h : (isOperand l.dtype && isOperand r.dtype) = true)
    (hint : op ≠ .div ∧ l.dtype ≠ .float64 ∧ r.dtype ≠ .float64) :
    l.arithmetic op r = combine .int64 (intCell op) l r := by
  simp only [arithmetic, if_pos h, if_pos hint, combine, bind_ok_eq_map]

lemma compare_pairwise (op : Comparison) (ltype rtype : DataType) :
    Pairwise (fun l r => l.compare op r) ltype rtype (compareType? ltype rtype) := by
  rw [compareType?]
  split
  · next h =>
    refine ⟨fun v w => .ok (compareCell op v w), ?_⟩
    rintro l r rfl rfl
    exact compare_eq_combine op h
  · next h =>
    rintro l r rfl rfl
    exact ⟨_, if_neg h⟩

lemma arithmetic_pairwise (op : Arithmetic) (ltype rtype : DataType) :
    Pairwise (fun l r => l.arithmetic op r) ltype rtype (arithmeticType? op ltype rtype) := by
  rw [arithmeticType?]
  split
  · next h =>
    split
    · next hint =>
      refine ⟨intCell op, ?_⟩
      rintro l r rfl rfl
      exact arithmetic_eq_combine h hint
    · next hfloat =>
      refine ⟨fun v w => .ok (floatCell op v w), ?_⟩
      rintro l r rfl rfl
      simp only [arithmetic, if_pos h, if_neg hfloat, combine, zipWith_eq_mapM, map_ok]
  · next h =>
    rintro l r rfl rfl
    exact ⟨_, if_neg h⟩

end TimeTable.Column
