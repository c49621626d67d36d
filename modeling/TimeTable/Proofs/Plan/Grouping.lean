import TimeTable.Proofs.Expr.Scope
import TimeTable.Proofs.Group.Among
import TimeTable.Proofs.Group.Partition
import TimeTable.Plan.Run

namespace TimeTable

variable {t out : Table} {keys : List Column} {c : Column} {key : Expr} {exprs : List Expr}
  {step : GroupStep} {n : Nat}

def GroupIndex.ofKeys (keys : List Column) (rowCount : Nat) : GroupIndex :=
  ⟨classes (Column.sameRow keys) rowCount, rowCount⟩

lemma GroupIndex.build_eq_ok (hkeys : keys ≠ []) (hlength : ∀ key ∈ keys, key.length = n) :
    build keys n = .ok (ofKeys keys n) :=
  buildWith_eq_classes hkeys hlength fun _ _ _ _ h => Column.rowHash_congr h

lemma GroupIndex.classifies_ofKeys (keys : List Column) (n : Nat) :
    (ofKeys keys n).Classifies fun a b => Column.sameRow keys a b = true :=
  classifies_classes (Column.sameRow_equivalence keys)

/-- The column of a key, which has as many rows as the table. -/
def Table.keyColumn (t : Table) (key : Expr) : Except Fault Column :=
  (key.evaluate t).map (·.broadcast t.height)

namespace Table

lemma keyColumn_shaped (h : t.keyColumn key = .ok c) :
    c.name = key.outputName ∧ c.length = t.height ∧ key.type? t.schema = some c.dtype := by
  obtain ⟨d, hd, rfl⟩ := map_eq_ok.mp h
  have hshape := Expr.evaluate_shaped hd
  rw [Column.name_broadcast, Column.dtype_broadcast]
  exact ⟨hshape.name_eq, Column.length_broadcast hshape.length_eq, hshape.type_eq⟩

lemma length_of_keyColumns {keys : List Column}
    (h : List.Forall₂ (fun key c => t.keyColumn key = .ok c) exprs keys) :
    ∀ c ∈ keys, c.length = t.height := by
  intro c hc
  obtain ⟨key, -, hkey⟩ := exists_mem_of_forall₂_right h hc
  exact (keyColumn_shaped hkey).2.1

/-- The key column of a reference is the column that it refers to. -/
lemma keyColumn_col_eq (t : Table) (name : String) : t.keyColumn (.col name) = t.column name := by
  rw [keyColumn, Expr.evaluate, Expr.eval_col, column]
  cases hfind : t.column? name with
  | none => rfl
  | some c =>
    obtain ⟨hmem, rfl⟩ := column?_eq_some hfind
    exact congrArg Except.ok (Column.broadcast_of_length_eq (length_of_mem hmem))

lemma keyColumn_col {name : String} : t.keyColumn (.col name) = .ok c ↔ t.column? name = some c := by
  rw [keyColumn_col_eq, column_eq_ok_iff]

/-- What is done with the groups of a table by some keys. -/
def groupStep (t : Table) (keys : List Column) : GroupStep → Except Fault Table
  | .agg aggs => t.aggregate (.ofKeys keys t.height) keys aggs
  | .slice slice n => t.sliceGroups (.ofKeys keys t.height) keys slice n

/-- A table is grouped by its key columns, of which there has to be one. -/
lemma groupBy_eq (t : Table) (exprs : List Expr) (step : GroupStep) :
    t.groupBy exprs step = exprs.mapM t.keyColumn >>= fun keys =>
      if keys.isEmpty then .error .noKeys else t.groupStep keys step := by
  show (exprs.mapM t.keyColumn >>= _) = _
  cases hkeys : exprs.mapM t.keyColumn with
  | error fault => rfl
  | ok keys =>
    have hlength := length_of_keyColumns (mapM_eq_ok_iff.mp hkeys)
    rw [ok_bind, ok_bind]
    cases keys with
    | nil => rfl
    | cons key keys =>
      have hcheck : (GroupIndex.ofKeys (key :: keys) t.height).verifyPartition t.height = .ok () :=
        (GroupIndex.classifies_ofKeys (key :: keys) t.height).verifyPartition
      rw [GroupIndex.build_eq_ok (List.cons_ne_nil _ _) hlength, ok_bind, hcheck, ok_bind]
      cases step with
      | agg aggs => rfl
      | slice slice n => rfl

lemma groupBy_eq_ok_iff :
    t.groupBy exprs step = .ok out ↔
      ∃ keys, List.Forall₂ (fun key c => t.keyColumn key = .ok c) exprs keys ∧ keys ≠ [] ∧
        t.groupStep keys step = .ok out := by
  rw [groupBy_eq, bind_eq_ok]
  simp only [mapM_eq_ok_iff]
  refine exists_congr fun keys => and_congr_right fun _ => ?_
  cases keys with
  | nil => simp
  | cons key keys => simp

/-- A table is grouped by the columns that keys refer to. -/
lemma groupBy_cols_eq (t : Table) (names : List String) (step : GroupStep) :
    t.groupBy (names.map .col) step = names.mapM t.column >>= fun keys =>
      if keys.isEmpty then .error .noKeys else t.groupStep keys step := by
  have hcolumns : (fun name => t.keyColumn (.col name)) = t.column :=
    funext fun name => keyColumn_col_eq t name
  rw [groupBy_eq, List.mapM_map]
  exact congrArg (fun f => List.mapM f names >>= _) hcolumns

lemma groupBy_cols_of_ok {names : List String} (hkeys : names.mapM t.column = .ok keys)
    (hne : keys ≠ []) : t.groupBy (names.map .col) step = t.groupStep keys step := by
  rw [groupBy_cols_eq, hkeys, ok_bind, List.isEmpty_eq_false_iff.mpr hne, if_neg Bool.false_ne_true]

end Table

/-- A plan that groups a table gives one if its arguments are right and its input gives a table that can
be grouped. -/
lemma Plan.run_groupBy_eq_ok_iff {input : Plan} {action : GroupAction} :
    (Plan.groupBy input exprs action).run = .ok out ↔
      ∃ step, action.step = .ok step ∧ ∃ t, input.run = .ok t ∧ t.groupBy exprs step = .ok out := by
  rw [run, bind_eq_ok]
  refine exists_congr fun step => and_congr_right fun _ => ?_
  split
  · next hempty =>
    obtain rfl := List.isEmpty_iff.mp hempty
    simp only [reduceCtorEq, false_iff, not_exists, not_and]
    intro t _ hout
    obtain ⟨keys, hkeys, hne, -⟩ := Table.groupBy_eq_ok_iff.mp hout
    exact hne (List.forall₂_nil_left_iff.mp hkeys)
  · exact bind_eq_ok

/-- A plan that groups a table directly, if its arguments are right. -/
lemma Plan.run_groupBy_scan {action : GroupAction} (h : action.step = .ok step) :
    (Plan.groupBy (.scan t) exprs action).run = t.groupBy exprs step := by
  rw [run, h, ok_bind]
  cases exprs with
  | nil => rfl
  | cons e es => rfl

end TimeTable
