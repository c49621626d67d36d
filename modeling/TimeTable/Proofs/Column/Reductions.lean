import TimeTable.Proofs.Column.Order
import TimeTable.Proofs.Column.Scalars
import TimeTable.Proofs.Group.Partition

namespace TimeTable

/-- Whether values of a type are added up: truth values, numbers and durations. Where there are no values
there is nothing to add. -/
def DataType.isAddable : DataType → Bool
  | null | boolean | int64 | float64 | duration _ => true
  | utf8 | date | datetime .. | list _ => false

/-- Whether there is a reduction for a type. Lists have no least or greatest one. -/
def Reducer.accepts : Reducer → DataType → Bool
  | min, dtype | max, dtype => !dtype.isList
  | sum, dtype | mean, dtype => dtype.isAddable
  | _, _ => true

namespace Column

variable {c : Column} {func : Reducer} {wanted : Ordering} {fault : Fault}

lemma extreme_eq_ok (h : c.dtype.isList = false) :
    c.extreme wanted func = .ok (c.dtype.toScalarOrNull
      (firstBy (fun v w => c.dtype.compareCells v w == wanted) (c.cells.filterMap id))) := by
  obtain ⟨name, dtype, cells⟩ := c
  cases dtype with
  | list inner => exact absurd h Bool.true_eq_false.mp
  | _ => rfl

lemma extreme_eq_error (h : c.dtype.isList = true) :
    c.extreme wanted func = .error (.unsupported func.name c.name c.dtype) := by
  obtain ⟨name, dtype, cells⟩ := c
  cases dtype with
  | list inner => rfl
  | _ => exact absurd h Bool.false_ne_true

lemma sum_of_isAddable (h : c.dtype.isAddable = true) :
    (∃ v, c.sum = .ok v) ∨ c.sum = .error (.sumOverflow c.name) := by
  obtain ⟨name, dtype, cells⟩ := c
  cases dtype with
  | null | boolean | float64 => exact .inl ⟨_, rfl⟩
  | int64 | duration unit =>
    rw [sum]
    cases addWords? (cells.filterMap id) with
    | some total => exact .inl ⟨_, rfl⟩
    | none => exact .inr rfl
  | _ => exact absurd h Bool.false_ne_true

lemma exists_mean_eq_ok (h : c.dtype.isAddable = true) : ∃ v, c.mean = .ok v := by
  obtain ⟨name, dtype, cells⟩ := c
  cases dtype with
  | utf8 | date | datetime unit zone | list inner => exact absurd h Bool.false_ne_true
  | _ => exact ⟨_, rfl⟩

lemma sum_eq_error (h : c.dtype.isAddable = false) :
    c.sum = .error (.unsupported Reducer.sum.name c.name c.dtype) := by
  obtain ⟨name, dtype, cells⟩ := c
  cases dtype with
  | utf8 | date | datetime unit zone | list inner => rfl
  | _ => exact absurd h Bool.true_eq_false.mp

lemma mean_eq_error (h : c.dtype.isAddable = false) :
    c.mean = .error (.unsupported Reducer.mean.name c.name c.dtype) := by
  obtain ⟨name, dtype, cells⟩ := c
  cases dtype with
  | utf8 | date | datetime unit zone | list inner => rfl
  | _ => exact absurd h Bool.true_eq_false.mp

/-- Different values can always be counted, as a column is a key of its own height. -/
lemma countUnique_eq (c : Column) : c.countUnique =
    .ok (.int64 (Int64.ofNat (GroupIndex.classes (sameRow [c]) c.length).length)) := by
  have hlength : ∀ key ∈ [c], key.length = c.length := List.forall_mem_singleton.mpr rfl
  rw [countUnique, GroupIndex.build, GroupIndex.buildWith_eq_classes (List.cons_ne_nil _ _) hlength
    fun _ _ _ _ h => rowHash_congr h]
  rfl

/-- Only a sum that leaves the words stops a reduction that there is for the type of the column. -/
lemma reduce_of_accepts (h : func.accepts c.dtype = true) :
    (∃ v, c.reduce func = .ok v) ∨
      (func = .sum ∧ c.reduce func = .error (.sumOverflow c.name)) := by
  cases func with
  | min => exact .inl ⟨_, extreme_eq_ok (by simpa [Reducer.accepts] using h)⟩
  | max => exact .inl ⟨_, extreme_eq_ok (by simpa [Reducer.accepts] using h)⟩
  | sum => exact (sum_of_isAddable h).imp_right fun hoverflow => ⟨rfl, hoverflow⟩
  | mean => exact .inl (exists_mean_eq_ok h)
  | nUnique => exact .inl ⟨_, countUnique_eq c⟩
  | _ => exact .inl ⟨_, rfl⟩

lemma reduce_of_not_accepts (h : func.accepts c.dtype = false) :
    c.reduce func = .error (.unsupported func.name c.name c.dtype) := by
  cases func with
  | min => exact extreme_eq_error (by simpa [Reducer.accepts] using h)
  | max => exact extreme_eq_error (by simpa [Reducer.accepts] using h)
  | sum => exact sum_eq_error h
  | mean => exact mean_eq_error h
  | _ => exact absurd h Bool.true_eq_false.mp

/-- A reduction fails with a mismatch of types exactly if there is none for the type of the column. -/
lemma reduce_typeMismatch_iff :
    (c.reduce func = .error fault ∧ fault.kind = .typeMismatch) ↔
      (func.accepts c.dtype = false ∧ fault = .unsupported func.name c.name c.dtype) := by
  cases h : func.accepts c.dtype with
  | false =>
    rw [reduce_of_not_accepts h, Except.error.injEq]
    constructor
    · rintro ⟨rfl, -⟩
      exact ⟨rfl, rfl⟩
    · rintro ⟨-, rfl⟩
      exact ⟨rfl, rfl⟩
  | true =>
    refine iff_of_false ?_ fun hfalse => Bool.true_eq_false.mp hfalse.1
    rintro ⟨herror, hkind⟩
    -- The only fault that is left is that of a sum, and it is of another kind.
    rcases reduce_of_accepts h with ⟨v, hv⟩ | ⟨-, hoverflow⟩
    · cases herror.symm.trans hv
    · obtain rfl := Except.error.inj (herror.symm.trans hoverflow)
      cases hkind

/-- The value that a reduction gives makes a column of one row that has exactly the type promised for the
reduction and holds the value. A mismatch of types is told by the reduction and the type of the column
alone, whatever values the column has and if it has none; where there is no mismatch, only a sum that
leaves the words stands in the way of a value. -/
theorem reduce_typed (func : Reducer) (c : Column) :
    (∀ v, c.reduce func = .ok v → ∀ name, ∃ d,
      ofScalars name (func.outputType c.dtype) [v] = .ok d ∧ d.name = name ∧
        d.dtype = func.outputType c.dtype ∧ d.toScalars = [v]) ∧
    (∀ fault, (c.reduce func = .error fault ∧ fault.kind = .typeMismatch) ↔
      (func.accepts c.dtype = false ∧ fault = .unsupported func.name c.name c.dtype)) ∧
    (func.accepts c.dtype = true → (∃ v, c.reduce func = .ok v) ∨
      (func = .sum ∧ c.reduce func = .error (.sumOverflow c.name))) := by
  refine ⟨?_, ?_, ?_⟩
  · exact fun v h name => exists_ofScalars_of_reduce h name
  · exact fun fault => reduce_typeMismatch_iff
  · exact reduce_of_accepts

/-- Durations that are all missing have a mean, which is missing and still of their type. -/
theorem reduce_typed_missing :
    let c : Column := ⟨"d", .duration .milliseconds, [none, none]⟩
    c.reduce .mean = .ok .null ∧ Reducer.mean.accepts c.dtype = true ∧
      (∃ d, ofScalars "mean" (.duration .milliseconds) [.null] = .ok d ∧ d.name = "mean" ∧
        d.dtype = .duration .milliseconds ∧ d.toScalars = [.null]) ∧
      ((∃ v, c.reduce .mean = .ok v) ∨
        (Reducer.mean = .sum ∧ c.reduce .mean = .error (.sumOverflow "d"))) := by
  intro c
  obtain ⟨htyped, -, hanswers⟩ := reduce_typed .mean c
  exact ⟨rfl, rfl, htyped .null rfl "mean", hanswers rfl⟩

end Column
end TimeTable
