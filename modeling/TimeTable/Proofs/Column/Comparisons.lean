import TimeTable.Proofs.Column.Pairwise

/-!
# Comparisons of columns

Which types have values that are compared, and how the six comparisons of two values hang together. Two
values have an order unless a NaN is one of them, and seen from the other side the order is reversed. So of
two values exactly one is less, equal or greater, the other comparisons follow from these, and a comparison
says the same as its mirror image with the operands exchanged.
-/

namespace TimeTable

/-! ### Types -/

/-- Which types have a common order: any two of numbers, a type of single values with itself, instants or
durations of one unit, and the type without values with every type. -/
inductive DataType.Comparable : DataType → DataType → Prop
  | null_left (dtype : DataType) : Comparable .null dtype
  | null_right (dtype : DataType) : Comparable dtype .null
  | numbers {ltype rtype : DataType} (hl : ltype.isNumeric) (hr : rtype.isNumeric) :
      Comparable ltype rtype
  | boolean : Comparable .boolean .boolean
  | utf8 : Comparable .utf8 .utf8
  | date : Comparable .date .date
  | datetime (unit : TimeUnit) (zone zone' : Option Zone) :
      Comparable (.datetime unit zone) (.datetime unit zone')
  | duration (unit : TimeUnit) : Comparable (.duration unit) (.duration unit)

lemma DataType.Comparable.symm {ltype rtype : DataType} (h : Comparable ltype rtype) :
    Comparable rtype ltype := by
  cases h with
  | null_left => exact .null_right _
  | null_right => exact .null_left _
  | numbers hl hr => exact .numbers hr hl
  | boolean => exact .boolean
  | utf8 => exact .utf8
  | date => exact .date
  | datetime unit zone zone' => exact .datetime unit zone' zone
  | duration unit => exact .duration unit

lemma DataType.isNumeric_iff {dtype : DataType} :
    dtype.isNumeric = true ↔ dtype = .int64 ∨ dtype = .float64 := by
  cases dtype <;> simp [isNumeric]

lemma Column.comparable_iff {ltype rtype : DataType} :
    comparable ltype rtype = true ↔ ltype.Comparable rtype := by
  constructor
  -- The definition tries its cases in order, and the last one stands for all pairs of numbers.
  · intro h
    rw [comparable.eq_def] at h
    split at h
    · exact .null_left _
    · exact .null_right _
    · exact .boolean
    · exact .utf8
    · exact .date
    · obtain rfl := beq_iff_eq.mp h
      exact .datetime _ _ _
    · obtain rfl := beq_iff_eq.mp h
      exact .duration _
    · obtain ⟨hl, hr⟩ := Bool.and_eq_true_iff.mp h
      exact .numbers hl hr
  · intro h
    cases h with
    | null_left => rfl
    | null_right => cases ltype <;> rfl
    | numbers hl hr =>
      obtain rfl | rfl := DataType.isNumeric_iff.mp hl
      · obtain rfl | rfl := DataType.isNumeric_iff.mp hr <;> rfl
      · obtain rfl | rfl := DataType.isNumeric_iff.mp hr <;> rfl
    | boolean => rfl
    | utf8 => rfl
    | date => rfl
    | datetime unit => exact beq_self_eq_true unit
    | duration unit => exact beq_self_eq_true unit

/-! ### Values -/

lemma Binary64.isNaN_ofParts {negative : Bool} {m : Nat} (h : m ≤ infinite) :
    (ofParts negative m).isNaN = false := by
  rw [infinite] at h
  have hmagnitude : (ofParts negative m).magnitude = m := by
    rw [magnitude, ofParts, UInt64.toNat_ofNat']
    split <;> omega
  rw [isNaN, hmagnitude, infinite, decide_eq_false_iff_not, Nat.not_lt]
  exact h

/-- The number nearest to an integer is a number. -/
lemma Binary64.isNaN_ofInt (n : Int) : (ofInt n).isNaN = false := by
  refine isNaN_ofParts ?_
  rw [magnitudeOfRatio]
  split
  · exact Nat.zero_le _
  · exact Nat.min_le_right _ _

lemma Binary64.compare?_swap (x y : Binary64) :
    y.compare? x = (x.compare? y).map Ordering.swap := by
  rw [compare?, compare?, Bool.or_comm]
  split
  · rfl
  · exact congrArg some Std.OrientedOrd.eq_swap

def Scalar.isNaN : Scalar → Bool
  | float64 v => v.isNaN
  | _ => false

/-- The order of values: truth values with `false` first, texts by their characters, the others by the
numbers that they are. An integer beside a floating-point number is the number nearest to it. -/
inductive Scalar.Less : Scalar → Scalar → Prop
  | boolean : Less (.boolean false) (.boolean true)
  | int64 {v w : Int64} (h : v.toInt < w.toInt) : Less (.int64 v) (.int64 w)
  | float64 {v w : Binary64} (h : v.compare? w = some .lt) : Less (.float64 v) (.float64 w)
  | int64_float64 {v : Int64} {w : Binary64} (h : (Binary64.ofInt v.toInt).compare? w = some .lt) :
      Less (.int64 v) (.float64 w)
  | float64_int64 {v : Binary64} {w : Int64} (h : v.compare? (Binary64.ofInt w.toInt) = some .lt) :
      Less (.float64 v) (.int64 w)
  | utf8 {v w : String} (h : v < w) : Less (.utf8 v) (.utf8 w)
  | date {v w : Int32} (h : v.toInt < w.toInt) : Less (.date v) (.date w)
  | datetime {v w : Int64} (unit unit' : TimeUnit) (zone zone' : Option Zone)
      (h : v.toInt < w.toInt) : Less (.datetime v unit zone) (.datetime w unit' zone')
  | duration {v w : Int64} (unit unit' : TimeUnit) (h : v.toInt < w.toInt) :
      Less (.duration v unit) (.duration w unit')

namespace Column

variable {v w : Scalar}

lemma compareScalars?_eq_lt_iff : compareScalars? v w = some .lt ↔ v.Less w := by
  constructor
  · intro h
    cases v with
    | int64 v => cases w with
      | int64 w => exact .int64 (Int.compare_eq_lt.mp (Option.some.inj h))
      | float64 w => exact .int64_float64 h
      | _ => cases h
    | float64 v => cases w with
      | int64 w => exact .float64_int64 h
      | float64 w => exact .float64 h
      | _ => cases h
    | boolean v => cases w with
      | boolean w =>
        have hlt : ∀ v w : Bool, Ord.compare v.toNat w.toNat = .lt → v = false ∧ w = true := by
          decide
        obtain ⟨rfl, rfl⟩ := hlt v w (Option.some.inj h)
        exact .boolean
      | _ => cases h
    | utf8 v => cases w with
      | utf8 w => exact .utf8 (compareOfLessAndEq_eq_lt.mp (Option.some.inj h))
      | _ => cases h
    | date v => cases w with
      | date w => exact .date (Int.compare_eq_lt.mp (Option.some.inj h))
      | _ => cases h
    | datetime v => cases w with
      | datetime w => exact .datetime _ _ _ _ (Int.compare_eq_lt.mp (Option.some.inj h))
      | _ => cases h
    | duration v => cases w with
      | duration w => exact .duration _ _ (Int.compare_eq_lt.mp (Option.some.inj h))
      | _ => cases h
    | _ => cases h
  · intro h
    cases h with
    | boolean => rfl
    | int64 h => exact congrArg some (Int.compare_eq_lt.mpr h)
    | float64 h => exact h
    | int64_float64 h => exact h
    | float64_int64 h => exact h
    | utf8 h => exact congrArg some (compareOfLessAndEq_eq_lt.mpr h)
    | date h => exact congrArg some (Int.compare_eq_lt.mpr h)
    | datetime _ _ _ _ h => exact congrArg some (Int.compare_eq_lt.mpr h)
    | duration _ _ h => exact congrArg some (Int.compare_eq_lt.mpr h)

/-- From the other side the order is reversed. -/
lemma compareScalars?_swap (v w : Scalar) :
    compareScalars? w v = (compareScalars? v w).map Ordering.swap := by
  cases v with
  | int64 v => cases w with
    | int64 w => exact congrArg some Std.OrientedOrd.eq_swap
    | float64 w => exact Binary64.compare?_swap _ _
    | _ => rfl
  | float64 v => cases w with
    | int64 w => exact Binary64.compare?_swap _ _
    | float64 w => exact Binary64.compare?_swap _ _
    | _ => rfl
  | boolean v => cases w with
    | boolean w => exact congrArg some Std.OrientedOrd.eq_swap
    | _ => rfl
  | utf8 v => cases w with
    | utf8 w => exact congrArg some Std.OrientedOrd.eq_swap
    | _ => rfl
  | date v => cases w with
    | date w => exact congrArg some Std.OrientedOrd.eq_swap
    | _ => rfl
  | datetime v => cases w with
    | datetime w => exact congrArg some Std.OrientedOrd.eq_swap
    | _ => rfl
  | duration v => cases w with
    | duration w => exact congrArg some Std.OrientedOrd.eq_swap
    | _ => rfl
  | null => cases w <;> rfl
  | list vs => cases w <;> rfl

/-- A NaN has an order with nothing. -/
lemma compareScalars?_of_isNaN (h : v.isNaN = true) (w : Scalar) : compareScalars? v w = none := by
  cases v with
  | float64 x => cases w with
    | int64 n => exact if_pos (Bool.or_eq_true_iff.mpr (.inl h))
    | float64 y => exact if_pos (Bool.or_eq_true_iff.mpr (.inl h))
    | _ => rfl
  | _ => cases h

/-- Values of types that are compared have an order, unless a NaN is one of them. -/
lemma exists_compareScalars? {ltype rtype : DataType} (h : ltype.Comparable rtype) (x : ltype.Cell)
    (y : rtype.Cell) (hx : (ltype.toScalar x).isNaN = false) (hy : (rtype.toScalar y).isNaN = false) :
    ∃ o, compareScalars? (ltype.toScalar x) (rtype.toScalar y) = some o := by
  -- Floating-point numbers have no order only if one of them is not a number.
  have hsome : ∀ x y : Binary64, x.isNaN = false → y.isNaN = false → ∃ o, x.compare? y = some o :=
    fun x y hx hy => ⟨_, if_neg (by simp [hx, hy])⟩
  cases h with
  | null_left => exact x.elim
  | null_right => exact y.elim
  | numbers hl hr =>
    obtain rfl | rfl := DataType.isNumeric_iff.mp hl
    · obtain rfl | rfl := DataType.isNumeric_iff.mp hr
      · exact ⟨_, rfl⟩
      · exact hsome _ _ (Binary64.isNaN_ofInt _) hy
    · obtain rfl | rfl := DataType.isNumeric_iff.mp hr
      · exact hsome _ _ hx (Binary64.isNaN_ofInt _)
      · exact hsome _ _ hx hy
  | _ => exact ⟨_, rfl⟩

end Column

/-! ### The six comparisons -/

namespace Comparison

/-- The comparison that says the same with the operands exchanged. -/
def mirror : Comparison → Comparison
  | eq => eq
  | neq => neq
  | gt => lt
  | gtEq => ltEq
  | lt => gt
  | ltEq => gtEq

lemma holds_mirror (op : Comparison) (o : Option Ordering) :
    op.mirror.holds (o.map Ordering.swap) = op.holds o := by
  cases op <;> rcases o with _ | _ | _ | _ <;> rfl

/-- What the comparisons of two values say together. -/
structure Agree (v w : Scalar) (truth : Comparison → Option Bool) : Prop where
  /-- They say nothing if and only if a value is missing. -/
  missing (op : Comparison) : truth op = none ↔ v.isNull = true ∨ w.isNull = true
  less : truth .lt = some true ↔ v.Less w
  neq : truth .neq = (truth .eq).map (!·)
  ltEq : truth .ltEq = some true ↔ truth .lt = some true ∨ truth .eq = some true
  gtEq : truth .gtEq = some true ↔ truth .gt = some true ∨ truth .eq = some true
  /-- Of two values exactly one is less, equal or greater, -/
  one (hv : v.isNull = false) (hw : w.isNull = false) (hv' : v.isNaN = false) (hw' : w.isNaN = false) :
    ∃! op, op ∈ [lt, eq, gt] ∧ truth op = some true
  /-- and a NaN is unequal to everything. -/
  nan (hv : v.isNull = false) (hw : w.isNull = false) (h : v.isNaN = true ∨ w.isNaN = true)
    (op : Comparison) : truth op = some (op == .neq)

variable {v w : Scalar}

lemma agree_of_missing (h : v.isNull = true ∨ w.isNull = true) : Agree v w fun _ => none where
  missing _ := iff_of_true rfl h
  less := by
    constructor
    · intro hnone
      cases hnone
    · intro hless
      cases hless <;> simp [Scalar.isNull] at h
  neq := rfl
  ltEq := by simp
  gtEq := by simp
  one hv hw := by simp [hv, hw] at h
  nan hv hw := by simp [hv, hw] at h

/-- Of an order exactly one of less, equal and greater holds. -/
lemma existsUnique_holds (o : Ordering) :
    ∃! op, op ∈ [lt, eq, gt] ∧ holds op (some o) = true := by
  have honly : ∀ least : Comparison, least ∈ [lt, eq, gt] → least.holds (some o) = true →
      (∀ op ∈ [lt, eq, gt], op.holds (some o) = true → op = least) →
      ∃! op, op ∈ [lt, eq, gt] ∧ holds op (some o) = true :=
    fun least hmem hholds hall => ⟨least, ⟨hmem, hholds⟩, fun op hop => hall op hop.1 hop.2⟩
  cases o with
  | lt => exact honly lt (by decide) rfl (by decide)
  | eq => exact honly eq (by decide) rfl (by decide)
  | gt => exact honly gt (by decide) rfl (by decide)

/-- Comparisons that are decided by an order, there being none if and only if a NaN is compared. -/
lemma agree_of_order {o : Option Ordering} (hv : v.isNull = false) (hw : w.isNull = false)
    (hless : o = some .lt ↔ v.Less w) (hnan : o = none ↔ v.isNaN = true ∨ w.isNaN = true) :
    Agree v w fun op => some (op.holds o) where
  missing _ := by simp [hv, hw]
  less := by
    rw [← hless]
    simp [holds]
  neq := by simp [holds, bne]
  ltEq := by simp [holds]
  gtEq := by simp [holds]
  one _ _ hv' hw' := by
    -- With an order at hand exactly one of the three relations holds; without one a value would be NaN.
    obtain ⟨o, rfl⟩ := Option.ne_none_iff_exists'.mp (mt hnan.mp (by simp [hv', hw']))
    simpa using existsUnique_holds o
  nan _ _ h op := by
    obtain rfl := hnan.mpr h
    cases op <;> rfl

end Comparison

namespace Column

lemma compareCell_mirror (op : Comparison) (v w : Scalar) :
    compareCell op.mirror w v = compareCell op v w := by
  rw [compareCell, compareCell, Bool.or_comm, compareScalars?_swap v w, Comparison.holds_mirror]

lemma compareCell_of_missing (h : v.isNull = true ∨ w.isNull = true) :
    (fun op => compareCell op v w) = fun _ => none := by
  funext op
  exact if_pos (Bool.or_eq_true_iff.mpr h)

lemma compareCell_of_present (hv : v.isNull = false) (hw : w.isNull = false) :
    (fun op => compareCell op v w) = fun op => some (op.holds (compareScalars? v w)) := by
  funext op
  exact if_neg (by simp [hv, hw])

lemma isNull_toScalar (dtype : DataType) (x : dtype.Cell) : (dtype.toScalar x).isNull = false := by
  cases dtype with
  | null => exact x.elim
  | _ => rfl

/-- The comparisons of two cells agree. -/
lemma agree_compareCell {ltype rtype : DataType} (h : ltype.Comparable rtype)
    (x : Option ltype.Cell) (y : Option rtype.Cell) :
    Comparison.Agree (ltype.toScalarOrNull x) (rtype.toScalarOrNull y) fun op =>
      compareCell op (ltype.toScalarOrNull x) (rtype.toScalarOrNull y) := by
  cases x with
  | none =>
    rw [compareCell_of_missing (.inl rfl)]
    exact Comparison.agree_of_missing (.inl rfl)
  | some x => cases y with
    | none =>
      rw [compareCell_of_missing (.inr rfl)]
      exact Comparison.agree_of_missing (.inr rfl)
    | some y =>
      have hx := isNull_toScalar ltype x
      have hy := isNull_toScalar rtype y
      rw [DataType.toScalarOrNull, DataType.toScalarOrNull, compareCell_of_present hx hy]
      refine Comparison.agree_of_order hx hy compareScalars?_eq_lt_iff ⟨?_, ?_⟩
      · intro hnone
        by_contra hnan
        rw [not_or, Bool.not_eq_true, Bool.not_eq_true] at hnan
        obtain ⟨o, ho⟩ := exists_compareScalars? h x y hnan.1 hnan.2
        rw [hnone] at ho
        cases ho
      · rintro (hnan | hnan)
        -- On the right a NaN is brought to the left by turning the comparison round.
        · exact compareScalars?_of_isNaN hnan _
        · rw [compareScalars?_swap (rtype.toScalar y), compareScalars?_of_isNaN hnan, Option.map_none]

/-! ### Columns -/

variable {l r : Column}

lemma compare_eq_ok (op : Comparison) (h : l.dtype.Comparable r.dtype) (hfit : Fit l r) :
    l.compare op r = .ok ⟨l.name, .boolean, (List.range (commonHeight l r)).map fun row =>
      compareCell op (l.valueAt row) (r.valueAt row)⟩ := by
  rw [compare_eq_combine op (comparable_iff.mpr h), combine_of_fit hfit, mapM_ok, map_ok]

lemma compare_incomparable (op : Comparison) (h : ¬l.dtype.Comparable r.dtype) :
    l.compare op r = .error (.incomparable l.name l.dtype op r.name r.dtype) :=
  if_neg (mt comparable_iff.mp h)

/-- Columns of types without a common order are not compared, whichever stands first. All other columns that
fit each other are compared row by row: the six comparisons of a row say nothing if a value is missing,
and else agree with each other and with the order of values, a NaN being unequal to everything. With the
columns exchanged the mirror image of a comparison gives the same truth values. -/
theorem compare_agrees (l r : Column) :
    (¬l.dtype.Comparable r.dtype → ∀ op,
      (∃ fault, l.compare op r = .error fault ∧ fault.kind = .typeMismatch) ∧
        ∃ fault, r.compare op l = .error fault ∧ fault.kind = .typeMismatch) ∧
    (l.dtype.Comparable r.dtype → Fit l r → ∃ truth : Comparison → Nat → Option Bool,
      (∀ op, l.compare op r =
          .ok ⟨l.name, .boolean, (List.range (commonHeight l r)).map (truth op)⟩ ∧
        r.compare op.mirror l =
          .ok ⟨r.name, .boolean, (List.range (commonHeight l r)).map (truth op)⟩) ∧
      ∀ row, Comparison.Agree (l.valueAt row) (r.valueAt row) fun op => truth op row) := by
  constructor
  · intro h op
    have hsymm := mt DataType.Comparable.symm h
    exact ⟨⟨_, compare_incomparable op h, rfl⟩, _, compare_incomparable op hsymm, rfl⟩
  · intro h hfit
    refine ⟨fun op row => compareCell op (l.valueAt row) (r.valueAt row), ?_, ?_⟩
    · intro op
      refine ⟨compare_eq_ok op h hfit, ?_⟩
      rw [compare_eq_ok op.mirror h.symm hfit.symm, hfit.commonHeight_comm]
      simp only [compareCell_mirror]
    · intro row
      obtain ⟨x, hx⟩ := exists_valueAt_eq l row
      obtain ⟨y, hy⟩ := exists_valueAt_eq r row
      have hagree := agree_compareCell h x y
      rw [hx, hy] at hagree
      exact hagree

/-- Integers beside a single NaN, and beside texts. -/
theorem compare_agrees_mixed :
    let n : Column := ⟨"n", .int64, [some 1, none]⟩
    let x : Column := ⟨"x", .float64, [some Binary64.nan]⟩
    let s : Column := ⟨"s", .utf8, [some "1", none]⟩
    (¬n.dtype.Comparable s.dtype ∧ ∃ fault, s.compare .lt n = .error fault ∧
      fault.kind = .typeMismatch) ∧
    n.dtype.Comparable x.dtype ∧ Fit n x ∧
      n.compare .neq x = .ok ⟨"n", .boolean, [some true, none]⟩ ∧
      n.compare .gtEq x = .ok ⟨"n", .boolean, [some false, none]⟩ ∧
      x.compare .ltEq n = .ok ⟨"x", .boolean, [some false, none]⟩ := by
  intro n x s
  have hs : ¬n.dtype.Comparable s.dtype := mt comparable_iff.mpr (by decide)
  have hx : n.dtype.Comparable x.dtype := .numbers rfl rfl
  have hfit : Fit n x := .inr (.inr rfl)
  obtain ⟨truth, hcompare, hagree⟩ := (compare_agrees n x).2 hx hfit
  have hrow : ∀ op, truth op 0 = some (op == .neq) := (hagree 0).nan rfl rfl (.inr rfl)
  have hmissing : ∀ op, truth op 1 = none := fun op => ((hagree 1).missing op).mpr (.inl rfl)
  have hcells : ∀ op, (List.range (commonHeight n x)).map (truth op) = [some (op == .neq), none] := by
    intro op
    rw [← hrow op, ← hmissing op]
    rfl
  simp only [hcells] at hcompare
  exact ⟨⟨hs, ((compare_agrees n s).1 hs .lt).2⟩, hx, hfit, (hcompare .neq).1, (hcompare .gtEq).1,
    (hcompare .gtEq).2⟩

end Column
end TimeTable
