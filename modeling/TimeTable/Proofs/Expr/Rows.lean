import TimeTable.Proofs.Expr.Shape

namespace TimeTable.Expr

variable {e : Expr} {t : Table} {c : Column} {rows : List Nat}

/-- Whether an expression has no reduction. -/
def isRowwise : Expr → Bool
  | col _ => true
  | lit _ => true
  | named input _ => input.isRowwise
  | temporal input _ => input.isRowwise
  | compare left _ right => left.isRowwise && right.isRowwise
  | arithmetic left _ right => left.isRowwise && right.isRowwise
  | reduce _ _ => false

/-- Operands that keep to their rows are combined row by row. -/
lemma pair_onRows {left right : Expr} {op : Column → Column → Except Fault Column}
    {out : DataType → DataType → Option DataType}
    (hop : ∀ ltype rtype, Column.Pairwise op ltype rtype (out ltype rtype))
    (hleft : ∀ l, left.eval t = .ok l →
      left.eval (t.take rows) = .ok (l.onRows left.isScalar rows))
    (hright : ∀ r, right.eval t = .ok r →
      right.eval (t.take rows) = .ok (r.onRows right.isScalar rows))
    (hrows : ∀ row ∈ rows, row < t.height)
    (h : (left.eval t >>= fun l => right.eval t >>= fun r => op l r) = .ok c) :
    (left.eval (t.take rows) >>= fun l => right.eval (t.take rows) >>= fun r => op l r) =
      .ok (c.onRows (left.isScalar && right.isScalar) rows) := by
  obtain ⟨l, hl, h⟩ := bind_eq_ok.mp h
  obtain ⟨r, hr, hc⟩ := bind_eq_ok.mp h
  rw [hleft l hl, ok_bind, hright r hr, ok_bind]
  exact (hop l.dtype r.dtype).onRows (eval_shaped hl).length_eq (eval_shaped hr).length_eq hrows hc

/-- The columns inside an expression without reductions, on rows taken from a table. -/
lemma eval_onRows (hrowwise : e.isRowwise) (hrows : ∀ row ∈ rows, row < t.height)
    (h : e.eval t = .ok c) : e.eval (t.take rows) = .ok (c.onRows e.isScalar rows) := by
  induction e generalizing c with
  | col name => exact Table.column_take rows h
  | lit v => exact h
  | named input name ih =>
    rw [eval_named] at h ⊢
    obtain ⟨d, hd, rfl⟩ := map_eq_ok.mp h
    rw [ih hrowwise hd, map_ok, Column.rename_onRows]
    rfl
  | temporal input op ih =>
    rw [eval_temporal] at h ⊢
    obtain ⟨d, hd, hc⟩ := bind_eq_ok.mp h
    rw [ih hrowwise hd, ok_bind]
    exact (Column.apply_cellwise op d.dtype).onRows (eval_shaped hd).length_eq hrows hc
  | compare left op right ihl ihr =>
    rw [isRowwise, Bool.and_eq_true] at hrowwise
    exact pair_onRows (Column.compare_pairwise op) (fun _ => ihl hrowwise.1)
      (fun _ => ihr hrowwise.2) hrows h
  | arithmetic left op right ihl ihr =>
    rw [isRowwise, Bool.and_eq_true] at hrowwise
    exact pair_onRows (Column.arithmetic_pairwise op) (fun _ => ihl hrowwise.1)
      (fun _ => ihr hrowwise.2) hrows h
  -- A reduction looks at all rows, so it is left out.
  | reduce input func => exact nomatch hrowwise

/-- The column of an expression without reductions, on rows taken from a table. -/
lemma evaluate_onRows (hrowwise : e.isRowwise) (hrows : ∀ row ∈ rows, row < t.height)
    (h : e.evaluate t = .ok c) : e.evaluate (t.take rows) = .ok (c.onRows e.isScalar rows) := by
  obtain ⟨d, hd, rfl⟩ := map_eq_ok.mp h
  rw [evaluate, eval_onRows hrowwise hrows hd, map_ok, Column.rename_onRows]

/-- If there is a column on all rows in another order then there is one on the table. -/
lemma exists_evaluate_of_perm (hrowwise : e.isRowwise) (hrows : rows.Perm (List.range t.height))
    (h : e.evaluate (t.take rows) = .ok c) :
    ∃ d, e.evaluate t = .ok d ∧ c = d.onRows e.isScalar rows := by
  obtain ⟨places, hplaces, hback⟩ := Table.exists_take_eq_of_perm hrows
  have hd := evaluate_onRows hrowwise (fun _ => Table.lt_of_mem_of_perm hplaces) h
  rw [hback] at hd
  refine ⟨_, hd, ?_⟩
  have hc := evaluate_onRows hrowwise (fun _ => Table.lt_of_mem_of_perm hrows) hd
  exact Except.ok.inj (h.symm.trans hc)

/-- If an expression without reductions has a column on a table, then it has one on any rows of the
table. This is the column on these rows, or the same single value, with the same name and type. -/
theorem evaluate_take (hrowwise : e.isRowwise) (hrows : ∀ row ∈ rows, row < t.height)
    (h : e.evaluate t = .ok c) :
    ∃ d, e.evaluate (t.take rows) = .ok d ∧ d = (if e.isScalar then c else c.take rows) ∧
      d.name = c.name ∧ d.dtype = c.dtype := by
  obtain ⟨d, hd, rfl⟩ := map_eq_ok.mp h
  refine ⟨(d.rename e.outputName).onRows e.isScalar rows, ?_, rfl, ?_, ?_⟩
  · rw [evaluate, eval_onRows hrowwise hrows hd, map_ok, Column.rename_onRows]
  · exact Column.name_onRows _ _ _
  · exact Column.dtype_onRows _ _ _

/-- Rows repeated and out of order, among them one where a value is missing. -/
theorem evaluate_take_repeated :
    let e : Expr := compare
      (arithmetic (temporal (col "at") (.field .day)) .mul (lit (.int64 2))) .gt (col "n")
    ∃ t : Table, t.columns = [⟨"at", .datetime .milliseconds none, [some 0, none, some 86400000]⟩,
        ⟨"n", .int64, [some 1, some 2, some 3]⟩] ∧
      e.isRowwise ∧ (∀ row ∈ [2, 1, 0, 2], row < t.height) ∧
      e.evaluate t = .ok ⟨"at", .boolean, [some true, none, some true]⟩ ∧
      e.evaluate (t.take [2, 1, 0, 2]) =
        .ok ⟨"at", .boolean, [some true, none, some true, some true]⟩ := by
  intro e
  let t : Table :=
    { columns := [⟨"at", .datetime .milliseconds none, [some 0, none, some 86400000]⟩,
        ⟨"n", .int64, [some 1, some 2, some 3]⟩]
      sameHeight := by simp [Column.SameHeight, Column.length]
      distinctNames := by simp [Column.DistinctNames] }
  have hrowwise : e.isRowwise := rfl
  have hrows : ∀ row ∈ [2, 1, 0, 2], row < t.height := by decide
  have heval : e.evaluate t = .ok ⟨"at", .boolean, [some true, none, some true]⟩ := rfl
  obtain ⟨d, hd, rfl, -, -⟩ := evaluate_take hrowwise hrows heval
  exact ⟨t, rfl, hrowwise, hrows, heval, hd⟩

end TimeTable.Expr
