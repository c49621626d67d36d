import TimeTable.Expr.Eval
import TimeTable.Proofs.Column.Rows

namespace TimeTable

lemma Scalar.firstType_replicate_null (n : Nat) : firstType (List.replicate n null) = .null := by
  induction n with
  | zero => rw [List.replicate_zero, firstType]
  | succ n ih => rw [List.replicate_succ, firstType, dtype, if_pos rfl, ih]

lemma Scalar.firstType_singleton (v : Scalar) : firstType [v] = v.dtype := by
  rw [firstType, firstType]
  split
  · next h => exact h.symm
  · rfl

/-- A value is one of its own type. -/
lemma DataType.exists_toScalarOrNull_eq (v : Scalar) :
    ∃ cell, v.dtype.toScalarOrNull cell = v := by
  cases v with
  | null => exact ⟨none, rfl⟩
  | boolean b => exact ⟨some b, rfl⟩
  | int64 n => exact ⟨some n, rfl⟩
  | float64 x => exact ⟨some x, rfl⟩
  | utf8 s => exact ⟨some s, rfl⟩
  | date d => exact ⟨some d, rfl⟩
  | datetime n unit zone => exact ⟨some n, rfl⟩
  | duration n unit => exact ⟨some n, rfl⟩
  | list vs => exact ⟨some vs, rfl⟩

namespace Column

variable {c d : Column} {name : String}

/-- Without a type of its own a column of the cells' values has no value. -/
lemma map_toScalarOrNull_null (cells : List (Option DataType.null.Cell)) :
    cells.map DataType.null.toScalarOrNull = List.replicate cells.length .null := by
  rw [List.eq_replicate_iff]
  refine ⟨List.length_map _, ?_⟩
  intro v hv
  obtain ⟨cell, -, rfl⟩ := List.mem_map.mp hv
  cases cell with
  | none => rfl
  | some x => exact x.elim

/-- The values of cells make the cells again. -/
lemma ofTyped_toScalarOrNull (name : String) (dtype : DataType) (cells : List (Option dtype.Cell)) :
    ofTyped name dtype (cells.map dtype.toScalarOrNull) = .ok ⟨name, dtype, cells⟩ := by
  have hcells : (cells.map dtype.toScalarOrNull).mapM (cellOf name dtype) = .ok cells := by
    rw [mapM_eq_ok_iff, List.forall₂_map_left_iff, List.forall₂_same]
    intro cell _
    rw [cellOf, DataType.ofScalar?_toScalarOrNull]
  rw [ofTyped, hcells]
  rfl

/-- The values of cells make the cells again, also in a column that takes its type from them. -/
lemma ofScalars_toScalarOrNull (name : String) (dtype : DataType)
    (cells : List (Option dtype.Cell)) :
    ofScalars name dtype (cells.map dtype.toScalarOrNull) = .ok ⟨name, dtype, cells⟩ := by
  rw [ofScalars]
  split
  · next h =>
    subst h
    conv_lhs => rw [map_toScalarOrNull_null, Scalar.firstType_replicate_null,
      ← map_toScalarOrNull_null]
    exact ofTyped_toScalarOrNull name .null cells
  · exact ofTyped_toScalarOrNull name dtype cells

/-- Values of a type make a column of the type, and none of them is changed. -/
lemma ofScalars_of_mem_type {dtype : DataType} {vs : List Scalar} (name : String)
    (h : ∀ v ∈ vs, ∃ cell, dtype.toScalarOrNull cell = v) :
    ∃ c, ofScalars name dtype vs = .ok c ∧ c.name = name ∧ c.dtype = dtype ∧ c.toScalars = vs := by
  obtain ⟨cells, rfl⟩ : ∃ cells : List (Option dtype.Cell), cells.map dtype.toScalarOrNull = vs := by
    induction vs with
    | nil => exact ⟨[], rfl⟩
    | cons v vs ih =>
      rw [List.forall_mem_cons] at h
      obtain ⟨cell, rfl⟩ := h.1
      obtain ⟨cells, rfl⟩ := ih h.2
      exact ⟨cell :: cells, rfl⟩
  exact ⟨_, ofScalars_toScalarOrNull name dtype cells, rfl, rfl, rfl⟩

/-- The values of a column make the column again. The values at rows are found if and only if these are
rows of the column, and then they are the values of the column that takes the rows. -/
theorem ofScalars_toScalars (c : Column) :
    ofScalars c.name c.dtype c.toScalars = .ok c ∧
      ∀ (rows : List Nat) (vs : List Scalar), rows.mapM (c.toScalars[·]?) = some vs ↔
        (∀ row ∈ rows, row < c.length) ∧ (c.take rows).toScalars = vs := by
  refine ⟨ofScalars_toScalarOrNull c.name c.dtype c.cells, fun rows vs => ?_⟩
  rw [mapM_eq_some_iff, toScalars_take]
  simp only [getElem?_toScalars_eq_some_iff]
  constructor
  · intro h
    constructor
    · intro row hrow
      obtain ⟨v, -, hlt, -⟩ := exists_mem_of_forall₂ h hrow
      exact hlt
    · have hvalues := map_eq_of_forall₂ (f := c.get) (g := id) h fun row v hv => hv.2.symm
      rw [← hvalues, List.map_id]
  · rintro ⟨hrows, rfl⟩
    rw [List.forall₂_map_right_iff, List.forall₂_same]
    exact fun row hrow => ⟨hrows row hrow, rfl⟩

/-- A literal is a column of one row that has the type of its value. -/
lemma literal_eq_ok (name : String) (v : Scalar) :
    ∃ cell, literal name v = .ok ⟨name, v.dtype, [cell]⟩ ∧ v.dtype.toScalarOrNull cell = v := by
  obtain ⟨cell, hcell⟩ := DataType.exists_toScalarOrNull_eq v
  refine ⟨cell, ?_, hcell⟩
  have hcells := ofTyped_toScalarOrNull name v.dtype [cell]
  rw [List.map_singleton, hcell] at hcells
  rw [literal, ofScalars, if_pos rfl, Scalar.firstType_singleton, hcells]

lemma extreme_mem_type {wanted : Ordering} {func : Reducer} {v : Scalar}
    (h : c.extreme wanted func = .ok v) : ∃ cell, c.dtype.toScalarOrNull cell = v := by
  obtain ⟨name, dtype, cells⟩ := c
  cases dtype with
  | list inner => exact nomatch h
  | _ => exact ⟨_, Except.ok.inj h⟩

lemma sum_mem_type {v : Scalar} (h : c.sum = .ok v) :
    ∃ cell, (Reducer.sum.outputType c.dtype).toScalarOrNull cell = v := by
  obtain ⟨name, dtype, cells⟩ := c
  cases dtype with
  | null => exact ⟨none, Except.ok.inj h⟩
  | boolean => exact ⟨some _, Except.ok.inj h⟩
  | float64 => exact ⟨some _, Except.ok.inj h⟩
  -- Only sums of amounts can overflow, and then there is no result to be typed.
  | int64 =>
    rw [sum] at h
    split at h
    · next total _ => exact ⟨some total, Except.ok.inj h⟩
    · exact nomatch h
  | duration unit =>
    rw [sum] at h
    split at h
    · next total _ => exact ⟨some total, Except.ok.inj h⟩
    · exact nomatch h
  | _ => exact nomatch h

lemma average_mem_type (vs : List Binary64) :
    ∃ cell, DataType.float64.toScalarOrNull cell = average vs := by
  rw [average]
  split
  · exact ⟨none, rfl⟩
  · exact ⟨some _, rfl⟩

lemma averageTicks_mem_type (unit : TimeUnit) (vs : List Int64) :
    ∃ cell, (DataType.duration unit).toScalarOrNull cell = averageTicks unit vs := by
  rw [averageTicks]
  split
  · exact ⟨none, rfl⟩
  · exact ⟨some _, rfl⟩

lemma mean_mem_type {v : Scalar} (h : c.mean = .ok v) :
    ∃ cell, (Reducer.mean.outputType c.dtype).toScalarOrNull cell = v := by
  obtain ⟨name, dtype, cells⟩ := c
  cases dtype with
  | null => exact ⟨none, Except.ok.inj h⟩
  | boolean => exact Except.ok.inj h ▸ average_mem_type _
  | int64 => exact Except.ok.inj h ▸ average_mem_type _
  | float64 => exact Except.ok.inj h ▸ average_mem_type _
  | duration unit => exact Except.ok.inj h ▸ averageTicks_mem_type unit _
  | _ => exact nomatch h

/-- A reduction gives a value of the type that it promises. -/
lemma reduce_mem_type {func : Reducer} {v : Scalar} (h : c.reduce func = .ok v) :
    ∃ cell, (func.outputType c.dtype).toScalarOrNull cell = v := by
  cases func with
  | sum => exact sum_mem_type h
  | mean => exact mean_mem_type h
  | min => exact extreme_mem_type h
  | max => exact extreme_mem_type h
  | count => exact ⟨some _, Except.ok.inj h⟩
  | len => exact ⟨some _, Except.ok.inj h⟩
  | first => exact ⟨_, Except.ok.inj h⟩
  | last => exact ⟨_, Except.ok.inj h⟩
  | nUnique =>
    obtain ⟨index, -, hv⟩ := bind_eq_ok.mp h
    exact ⟨some _, Except.ok.inj hv⟩
  | list => exact ⟨some _, Except.ok.inj h⟩

/-- The value of a reduction makes a column of the type that it promises, under any name. -/
lemma exists_ofScalars_of_reduce {func : Reducer} {v : Scalar} (h : c.reduce func = .ok v)
    (name : String) :
    ∃ d, ofScalars name (func.outputType c.dtype) [v] = .ok d ∧ d.name = name ∧
      d.dtype = func.outputType c.dtype ∧ d.toScalars = [v] :=
  ofScalars_of_mem_type name (List.forall_mem_singleton.mpr (reduce_mem_type h))

/-- A reduction gives a column of one row, under the name of the column and of the type that it
promises. -/
lemma reduced_eq_ok {func : Reducer} (h : c.reduced func = .ok d) :
    ∃ cell, d = ⟨c.name, func.outputType c.dtype, [cell]⟩ := by
  obtain ⟨v, hv, hd⟩ := bind_eq_ok.mp h
  obtain ⟨cell, rfl⟩ := reduce_mem_type hv
  have hcells := ofScalars_toScalarOrNull c.name (func.outputType c.dtype) [cell]
  rw [List.map_singleton, hd] at hcells
  exact ⟨cell, Except.ok.inj hcells⟩

end Column
end TimeTable
