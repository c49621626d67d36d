import TimeTable.Proofs.Expr.Shape

namespace TimeTable.Expr

variable {e : Expr} {t u : Table} {c : Column} {name : String}

/-- A list without its repetitions has none. -/
lemma nodup_eraseDups (names : List String) : names.eraseDups.Nodup := by
  cases names with
  | nil => exact List.nodup_nil
  | cons name names =>
    rw [List.eraseDups_cons, List.nodup_cons]
    refine ⟨?_, nodup_eraseDups _⟩
    rw [List.mem_eraseDups, List.mem_filter]
    simp
termination_by names.length
decreasing_by exact Nat.lt_succ_of_le (List.length_filter_le _ _)

lemma mem_referencedColumns : name ∈ e.referencedColumns ↔ name ∈ e.references :=
  List.mem_eraseDups

/-- Tables that agree on the columns that an expression refers to are alike to the expression. -/
lemma eval_congr (h : ∀ name ∈ e.references, t.column? name = u.column? name) :
    e.eval t = e.eval u := by
  induction e with
  | col name => rw [eval_col, eval_col, Table.column, Table.column, h name List.mem_cons_self]
  | lit v => rfl
  | named input name ih => rw [eval_named, eval_named, ih h]
  | temporal input op ih => rw [eval_temporal, eval_temporal, ih h]
  | compare left op right ihl ihr =>
    rw [eval_compare, eval_compare, ihl fun name hname => h name (List.mem_append_left _ hname),
      ihr fun name hname => h name (List.mem_append_right _ hname)]
  | arithmetic left op right ihl ihr =>
    rw [eval_arithmetic, eval_arithmetic, ihl fun name hname => h name (List.mem_append_left _ hname),
      ihr fun name hname => h name (List.mem_append_right _ hname)]
  | reduce input func ih => rw [eval_reduce, eval_reduce, ih h]

lemma evaluate_congr (h : ∀ name ∈ e.references, t.column? name = u.column? name) :
    e.evaluate t = e.evaluate u := by
  rw [evaluate, evaluate, eval_congr h]

/-- On any rows, too, only the columns that an expression refers to are of interest. -/
lemma evaluate_take_congr (h : ∀ name ∈ e.references, t.column? name = u.column? name)
    (rows : List Nat) : e.evaluate (t.take rows) = e.evaluate (u.take rows) := by
  apply evaluate_congr
  intro name hname
  rw [Table.column?_take, Table.column?_take, h name hname]

/-- The shape of the column of an expression under its final name. -/
lemma evaluate_shaped (h : e.evaluate t = .ok c) : Shaped e t c := by
  obtain ⟨d, hd, rfl⟩ := map_eq_ok.mp h
  have hshape := eval_shaped hd
  exact ⟨rfl, hshape.length_eq, hshape.type_eq⟩

end TimeTable.Expr
