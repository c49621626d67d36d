import TimeTable.Proofs.Column.Order
import TimeTable.Proofs.Column.Scalars

/-!
# Columns of one type

The values that make a column are of its type, except that integers may stand among floating-point
numbers, where they become such numbers, and that a list is taken whatever its items are. So a column
made of values is homogeneous if and only if the lists among them are.
-/

namespace TimeTable

namespace Scalar

/-! ### Values of a type -/

mutual

/-- Whether a value is one of a type. A list is one if each of its items is missing or is one of the type
of the items. -/
def hasType (dtype : DataType) : Scalar → Bool
  | list items =>
    match dtype with
    | .list inner => allHaveType inner items
    | _ => false
  | null => false
  | v => v.dtype = dtype

/-- Whether all values are missing or of a type. -/
def allHaveType (dtype : DataType) : List Scalar → Bool
  | [] => true
  | v :: vs => (v.isNull || hasType dtype v) && allHaveType dtype vs

end

variable {dtype inner : DataType} {v : Scalar} {items vs : List Scalar}

lemma isNull_iff : v.isNull = true ↔ v = .null := by
  cases v <;> simp [isNull]

lemma dtype_eq_null_iff : v.dtype = .null ↔ v = .null := by
  cases v <;> simp [Scalar.dtype]

lemma allHaveType_iff :
    allHaveType dtype vs = true ↔ ∀ v ∈ vs, v ≠ .null → v.hasType dtype = true := by
  induction vs with
  | nil => simp [allHaveType]
  | cons v vs ih =>
    rw [allHaveType, Bool.and_eq_true, ih, List.forall_mem_cons, Bool.or_eq_true, isNull_iff,
      or_iff_not_imp_left]

/-- The first type among the values is that of the first value that is not missing. -/
lemma firstType_eq_find? (vs : List Scalar) :
    firstType vs = ((vs.find? fun v => !v.isNull).map Scalar.dtype).getD .null := by
  induction vs with
  | nil => simp [firstType]
  | cons v vs ih =>
    rw [firstType, List.find?_cons]
    by_cases hv : v = .null
    · simp [hv, isNull, Scalar.dtype, ih]
    · have hnull : v.isNull = false := by simpa using mt isNull_iff.mp hv
      simp [hnull, mt dtype_eq_null_iff.mp hv]

end Scalar

namespace DataType

variable {dtype : DataType} {v : Scalar}

/-! ### Values that a column takes -/

/-- The values that a column of a type takes: missing ones, those of the type, integers among
floating-point numbers, and any list among lists. -/
inductive Admits : DataType → Scalar → Prop
  | missing {dtype : DataType} : Admits dtype .null
  | typed {dtype : DataType} {v : Scalar} : v.hasType dtype = true → Admits dtype v
  | integer {n : Int64} : Admits .float64 (.int64 n)
  | anyList {inner : DataType} {items : List Scalar} : Admits (.list inner) (.list items)

/-- A value as it stands in a column of a type: among floating-point numbers an integer is the nearest
such number. -/
def widen : DataType → Scalar → Scalar
  | .float64, .int64 v => .float64 (.ofInt v.toInt)
  | _, v => v

lemma admits_of_ofScalar? {cell : Option dtype.Cell} (h : dtype.ofScalar? v = some cell) :
    dtype.Admits v := by
  -- Beside values of the type itself a column takes missing ones, integers as floating-point numbers, and
  -- lists with whatever is in them.
  cases v with
  | null => exact .missing
  | list items =>
    cases dtype with
    | list inner => exact .anyList
    | _ => exact nomatch h
  | int64 n =>
    cases dtype with
    | int64 => exact .typed rfl
    | float64 => exact .integer
    | _ => exact nomatch h
  | _ =>
    refine .typed ?_
    cases dtype <;> simp_all [ofScalar?, Scalar.hasType, Scalar.dtype]

lemma exists_ofScalar?_of_admits (h : dtype.Admits v) : ∃ cell, dtype.ofScalar? v = some cell := by
  cases h with
  | missing => exact ⟨none, ofScalar?_null dtype⟩
  | integer => exact ⟨_, rfl⟩
  | anyList => exact ⟨_, rfl⟩
  | typed htype =>
    cases v with
    | null => exact ⟨none, ofScalar?_null dtype⟩
    | list items =>
      cases dtype with
      | list inner => exact ⟨some items, rfl⟩
      | _ => simp [Scalar.hasType] at htype
    | _ =>
      simp only [Scalar.hasType, decide_eq_true_eq] at htype
      subst htype
      simp [Scalar.dtype, ofScalar?]

lemma toScalarOrNull_of_ofScalar? {cell : Option dtype.Cell} (h : dtype.ofScalar? v = some cell) :
    dtype.toScalarOrNull cell = dtype.widen v := by
  fun_cases ofScalar? dtype v <;> simp_all [ofScalar?, widen]
  all_goals exact h ▸ rfl

lemma widen_eq_list_iff {items : List Scalar} : dtype.widen v = .list items ↔ v = .list items := by
  fun_cases widen dtype v
  · simp
  · rfl

lemma widen_eq_null_iff : dtype.widen v = .null ↔ v = .null := by
  fun_cases widen dtype v
  · simp
  · rfl

/-- Only lists may be of another type than the column that takes them. -/
lemma hasType_widen_of_admits (h : dtype.Admits v) (hnull : v ≠ .null)
    (hlist : ∀ items, v ≠ .list items) : (dtype.widen v).hasType dtype = true := by
  cases h with
  | missing => exact absurd rfl hnull
  | integer => rfl
  | anyList => exact absurd rfl (hlist _)
  | typed htype =>
    fun_cases widen dtype v
    · rfl
    · exact htype

end DataType

namespace Column

variable {c : Column} {name : String} {dtype : DataType} {v : Scalar} {values : List Scalar}

lemma cellOf_eq_ok_iff {cell : Option dtype.Cell} :
    cellOf name dtype v = .ok cell ↔ dtype.ofScalar? v = some cell := by
  rw [cellOf]
  split
  · next cell' hcell => simp [hcell]
  · next hcell => simp [hcell]

/-- Values that have become a column are admitted and are the values of the column, widened. -/
lemma admits_of_ofTyped (h : ofTyped name dtype values = .ok c) :
    c.name = name ∧ c.dtype = dtype ∧ (∀ v ∈ values, dtype.Admits v) ∧
      c.toScalars = values.map dtype.widen := by
  obtain ⟨cells, hcells, hc⟩ := bind_eq_ok.mp h
  obtain rfl := Except.ok.inj hc
  have hcell := mapM_eq_ok_iff.mp hcells
  refine ⟨rfl, rfl, ?_, ?_⟩
  · intro v hv
    obtain ⟨cell, -, hv⟩ := exists_mem_of_forall₂ hcell hv
    exact DataType.admits_of_ofScalar? (cellOf_eq_ok_iff.mp hv)
  · exact map_eq_of_forall₂ hcell fun v cell hv =>
      DataType.toScalarOrNull_of_ofScalar? (cellOf_eq_ok_iff.mp hv)

lemma exists_ofTyped_of_admits (name : String) (h : ∀ v ∈ values, dtype.Admits v) :
    ∃ c, ofTyped name dtype values = .ok c := by
  have hcell : ∀ v ∈ values, ∃ cell, cellOf name dtype v = .ok cell := by
    intro v hv
    obtain ⟨cell, hcell⟩ := DataType.exists_ofScalar?_of_admits (h v hv)
    exact ⟨cell, cellOf_eq_ok_iff.mpr hcell⟩
  obtain ⟨cells, hcells⟩ := exists_mapM_eq_ok_iff.mpr hcell
  exact ⟨⟨name, dtype, cells⟩, by rw [ofTyped, hcells, ok_bind]⟩

lemma ofTyped_eq_ok_iff :
    ofTyped name dtype values = .ok c ↔ c.name = name ∧ c.dtype = dtype ∧
      (∀ v ∈ values, dtype.Admits v) ∧ c.toScalars = values.map dtype.widen := by
  refine ⟨admits_of_ofTyped, ?_⟩
  rintro ⟨hname, hdtype, hadmits, hvalues⟩
  -- A column is made, and its name, type and values leave no other one.
  obtain ⟨d, hd⟩ := exists_ofTyped_of_admits name hadmits
  obtain ⟨hname', hdtype', -, hvalues'⟩ := admits_of_ofTyped hd
  rw [hd, eq_of_toScalars_eq (hname'.trans hname.symm) (hdtype'.trans hdtype.symm)
    (hvalues'.trans hvalues.symm)]

/-- The type of a column made of values: the one that is asked for, or the type of the first value that
is not missing. -/
def typeFor (dtype : DataType) (values : List Scalar) : DataType :=
  if dtype = .null then ((values.find? fun v => !v.isNull).map Scalar.dtype).getD .null else dtype

/-- Whether every value of a column is missing or of the type of the column. -/
def IsHomogeneous (c : Column) : Prop :=
  ∀ v ∈ c.toScalars, v ≠ .null → v.hasType c.dtype = true

instance (c : Column) : Decidable c.IsHomogeneous :=
  decidable_of_iff (Scalar.allHaveType c.dtype c.toScalars = true) Scalar.allHaveType_iff

lemma isHomogeneous_iff (hadmits : ∀ v ∈ values, c.dtype.Admits v)
    (hvalues : c.toScalars = values.map c.dtype.widen) :
    c.IsHomogeneous ↔ ∀ items, .list items ∈ values → (Scalar.list items).hasType c.dtype = true := by
  constructor
  · intro h items hitems
    have hmem : .list items ∈ c.toScalars := by
      rw [hvalues]
      exact List.mem_map.mpr ⟨_, hitems, DataType.widen_eq_list_iff.mpr rfl⟩
    exact h _ hmem (by simp)
  · intro h w hw hnull
    rw [hvalues] at hw
    obtain ⟨v, hv, rfl⟩ := List.mem_map.mp hw
    -- Only lists are taken unseen; any other value has got the type of the column.
    by_cases hlist : ∃ items, v = .list items
    · obtain ⟨items, rfl⟩ := hlist
      rw [DataType.widen_eq_list_iff.mpr rfl]
      exact h items hv
    · exact DataType.hasType_widen_of_admits (hadmits v hv) (mt DataType.widen_eq_null_iff.mpr hnull)
        (not_exists.mp hlist)

/-- Values make a column if and only if its type admits each of them, and then they are its values, the
integers among floating-point numbers as such numbers. What the items of a list are is not looked at, so
the column is homogeneous if and only if the lists among the values are of its type. -/
theorem ofScalars_homogeneous (name : String) (dtype : DataType) (values : List Scalar) (c : Column) :
    (ofScalars name dtype values = .ok c ↔ c.name = name ∧ c.dtype = typeFor dtype values ∧
      (∀ v ∈ values, c.dtype.Admits v) ∧ c.toScalars = values.map c.dtype.widen) ∧
    (ofScalars name dtype values = .ok c →
      (c.IsHomogeneous ↔
        ∀ items, .list items ∈ values → (Scalar.list items).hasType c.dtype = true)) := by
  have hmade : ofScalars name dtype values = .ok c ↔ c.name = name ∧ c.dtype = typeFor dtype values ∧
      (∀ v ∈ values, c.dtype.Admits v) ∧ c.toScalars = values.map c.dtype.widen := by
    rw [ofScalars, Scalar.firstType_eq_find?, ← typeFor, ofTyped_eq_ok_iff]
    constructor
    · rintro ⟨hname, hdtype, h⟩
      exact ⟨hname, hdtype, hdtype.symm ▸ h⟩
    · rintro ⟨hname, hdtype, h⟩
      exact ⟨hname, hdtype, hdtype ▸ h⟩
  refine ⟨hmade, ?_⟩
  intro h
  obtain ⟨-, -, hadmits, hvalues⟩ := hmade.mp h
  exact isHomogeneous_iff hadmits hvalues

/-- Lists of lists of integers, with missing values at each depth. -/
theorem ofScalars_homogeneous_nested :
    let values : List Scalar := [.null, .list [.list [.int64 1, .null], .null], .list []]
    let c : Column :=
      ⟨"x", .list (.list .int64), [none, some [.list [.int64 1, .null], .null], some []]⟩
    ofScalars "x" .null values = .ok c ∧ c.dtype = typeFor .null values ∧ c.IsHomogeneous := by
  intro values c
  have hc : ofScalars "x" .null values = .ok c := rfl
  obtain ⟨hmade, hlists⟩ := ofScalars_homogeneous "x" .null values c
  refine ⟨hc, (hmade.mp hc).2.1, (hlists hc).mpr ?_⟩
  intro items hitems
  simp only [values, List.mem_cons, List.not_mem_nil, Scalar.list.injEq, reduceCtorEq, false_or,
    or_false] at hitems
  rcases hitems with rfl | rfl
  · decide
  · decide

/-- A list of texts is taken into a column of lists of integers. -/
theorem ofScalars_not_homogeneous :
    let c : Column := ⟨"x", .list .int64, [some [.utf8 "a"]]⟩
    ofScalars "x" (.list .int64) [.list [.utf8 "a"]] = .ok c ∧
      (Scalar.list [.utf8 "a"]).dtype = .list .utf8 ∧ ¬ c.IsHomogeneous :=
  ⟨rfl, by decide, by decide⟩

end Column
end TimeTable
