import TimeTable.Plan.Run
import TimeTable.Proofs.Column.Faults
import TimeTable.Proofs.Expr.Scope
import TimeTable.Proofs.Expr.Zones

/-!
# Faults of expressions

An expression fails with a fault of values alone, which is a crash only if there are zones: the columns of
its operands always fit together, since each has a single row or the height of the table. Its own column
has a single row if it is known to give a single value, and the height of the table otherwise, so a group
has one value for each aggregation.
-/

namespace TimeTable

open Fault (OfValues)

variable {e : Expr} {t group : Table} {c : Column} {results : List Column}

lemma Table.column_failsWith {zoned : Prop} (t : Table) (name : String) :
    FailsWith (OfValues zoned) (t.column name) := by
  rw [column]
  cases t.column? name with
  | some c => exact .ok c
  | none => exact .error (.inl rfl)

namespace Expr

lemma eval_failsWith (e : Expr) (t : Table) :
    FailsWith (OfValues (e.NamesZone ∨ t.HasZone)) (e.eval t) := by
  induction e with
  | col name => exact t.column_failsWith name
  | lit v => exact Column.ofScalars_failsWith literalName .null [v]
  | named input name ih => exact ih.map fun c => c.rename name
  -- A zone in the column of the input comes from the input or the table, so it is one of theirs.
  | temporal input op ih =>
    refine (ih.ofValues_mono (Or.imp_left .inl)).bind fun c hc => ?_
    refine (Column.apply_failsWith op c).ofValues_mono fun hzoned => ?_
    exact (namesZone_or_hasZone (eval_shaped hc).type_eq hzoned).imp_left .inl
  | compare left op right ihl ihr =>
    refine (ihl.ofValues_mono (Or.imp_left .inl)).bind fun l hl => ?_
    refine (ihr.ofValues_mono (Or.imp_left .inr)).bind fun r hr => ?_
    exact Column.compare_failsWith (eval_shaped hl).length_eq (eval_shaped hr).length_eq op
  | arithmetic left op right ihl ihr =>
    refine (ihl.ofValues_mono (Or.imp_left .inl)).bind fun l hl => ?_
    refine (ihr.ofValues_mono (Or.imp_left .inr)).bind fun r hr => ?_
    exact Column.arithmetic_failsWith (eval_shaped hl).length_eq (eval_shaped hr).length_eq op
  | reduce input func ih => exact ih.bind fun c _ => Column.reduced_failsWith func c

lemma evaluate_failsWith (e : Expr) (t : Table) :
    FailsWith (OfValues (e.NamesZone ∨ t.HasZone)) (e.evaluate t) :=
  (eval_failsWith e t).map fun c => c.rename e.outputName

/-- The value of a group can be told from the column of an expression on it. -/
lemma exists_groupValue (h : e.evaluate group = .ok c) : ∃ v, e.groupValue c = .ok v := by
  rw [groupValue]
  cases hscalar : e.isScalar with
  | true =>
    have hlength := (evaluate_shaped h).length_eq
    rw [hscalar, if_pos rfl] at hlength
    exact ⟨_, if_pos hlength⟩
  | false => exact ⟨_, rfl⟩

lemma assemble_failsWith (hresults : ∀ c ∈ results, ∃ group, e.evaluate group = .ok c)
    (source : Table) : FailsWith (OfValues (e.NamesZone ∨ source.HasZone)) (e.assemble results source) := by
  have hvalues : FailsWith (OfValues (e.NamesZone ∨ source.HasZone)) (results.mapM e.groupValue) := by
    refine .mapM fun c hc => ?_
    obtain ⟨group, hgroup⟩ := hresults c hc
    obtain ⟨v, hv⟩ := exists_groupValue hgroup
    exact hv ▸ .ok v
  have htype : FailsWith (OfValues (e.NamesZone ∨ source.HasZone)) (e.groupType results source) := by
    rw [groupType]
    -- Only without groups is the aggregation evaluated once more, on no rows.
    split
    · exact .ok _
    · split
      · exact ((evaluate_failsWith e _).map Column.dtype).ofValues_mono (Or.imp_right Table.hasZone_of_take)
      · exact .ok _
  exact hvalues.bind fun vs _ => htype.bind fun inner _ => Column.ofScalars_failsWith _ _ vs

/-- On every table an expression does not fail for columns of different heights. If it gives a column,
this has a single row or the height of the table, as is known beforehand, and a group that it was
evaluated on has a value. So columns on groups are put together without a fault of their heights. -/
theorem evaluate_never_uneven (e : Expr) (t : Table) :
    (∀ fault, e.evaluate t = .error fault → fault.kind ≠ .shapeMismatch) ∧
    (∀ c, e.evaluate t = .ok c →
      c.length = (if e.isScalar then 1 else t.height) ∧ ∃ v, e.groupValue c = .ok v) ∧
    ∀ results : List Column, (∀ c ∈ results, ∃ group, e.evaluate group = .ok c) →
      ∀ source fault, e.assemble results source = .error fault → fault.kind ≠ .shapeMismatch := by
  refine ⟨?_, ?_, ?_⟩
  · intro fault hfault
    exact (evaluate_failsWith e t fault hfault).kind_ne rfl (by decide)
  · intro c hc
    exact ⟨(evaluate_shaped hc).length_eq, exists_groupValue hc⟩
  · intro results hresults source fault hfault
    exact (assemble_failsWith hresults source fault hfault).kind_ne rfl (by decide)

/-- A column without rows against a literal has no rows, and one of instants against a text is refused
for its type. -/
theorem evaluate_never_uneven_without_rows :
    let above : Expr := .compare (.col "n") .gt (.lit (.int64 1))
    let later : Expr := .compare (.col "t") .gt (.lit (.utf8 "x"))
    ∃ (t : Table) (c : Column) (fault : Fault),
      t.columns = [⟨"n", .int64, []⟩, ⟨"t", .datetime .microseconds none, []⟩] ∧
        above.evaluate t = .ok c ∧ c.length = 0 ∧ (∃ v, above.groupValue c = .ok v) ∧
        (∀ source fault, above.assemble [c] source = .error fault → fault.kind ≠ .shapeMismatch) ∧
        later.evaluate t = .error fault ∧ fault.kind ≠ .shapeMismatch := by
  intro above later
  obtain ⟨t, ht⟩ : ∃ t : Table,
      t.columns = [⟨"n", .int64, []⟩, ⟨"t", .datetime .microseconds none, []⟩] :=
    ⟨⟨_, by simp [Column.SameHeight, Column.length], by simp [Column.DistinctNames]⟩, rfl⟩
  have hheight : t.height = 0 := by
    rw [Table.height, ht]
    rfl
  have habove : above.evaluate t = .ok ⟨"n", .boolean, []⟩ := by
    rw [evaluate, eval_compare, eval_col, Table.column, Table.column?, ht]
    rfl
  have hlater : later.evaluate t = .error
      (.incomparable "t" (.datetime .microseconds none) .gt literalName .utf8) := by
    rw [evaluate, eval_compare, eval_col, Table.column, Table.column?, ht]
    rfl
  obtain ⟨-, hcolumn, hassemble⟩ := evaluate_never_uneven above t
  obtain ⟨hlength, hvalue⟩ := hcolumn _ habove
  refine ⟨t, _, _, ht, habove, hlength.trans hheight, hvalue, ?_, hlater, ?_⟩
  · exact hassemble _ fun c hc => ⟨t, List.mem_singleton.mp hc ▸ habove⟩
  · exact (evaluate_never_uneven later t).1 _ hlater

end Expr
end TimeTable
