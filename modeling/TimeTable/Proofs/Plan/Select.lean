import TimeTable.Plan.Run
import TimeTable.Proofs.Expr.Scope

/-!
# Selecting expressions

The columns of expressions are brought to the greatest of their heights, to which single values are
repeated. This is the height of the table as soon as one column has it, with one exception: beside
columns without rows a single value is the greater one, and as it is not cut to no rows the columns do
not form a table.
-/

namespace TimeTable

variable {t out : Table} {e : Expr} {exprs : List Expr} {columns : List Column} {c d : Column}
  {m n : Nat}

/-! ### The greatest height -/

def Column.greatestHeight (columns : List Column) : Nat :=
  columns.foldl (fun height c => max height c.length) 0

lemma Column.foldl_max_eq (hle : ∀ c ∈ columns, c.length ≤ n) (hm : m ≤ n)
    (hreach : m = n ∨ ∃ c ∈ columns, c.length = n) :
    columns.foldl (fun height c => max height c.length) m = n := by
  induction columns generalizing m with
  | nil =>
    rcases hreach with rfl | ⟨c, hc, -⟩
    · rfl
    · exact absurd hc List.not_mem_nil
  | cons c cs ih =>
    rw [List.forall_mem_cons] at hle
    rw [List.foldl_cons]
    refine ih hle.2 (Nat.max_le.mpr ⟨hm, hle.1⟩) ?_
    rcases hreach with rfl | ⟨d, hd, hlength⟩
    · exact .inl (Nat.max_eq_left hle.1)
    · rcases List.mem_cons.mp hd with rfl | hd
      · exact .inl (hlength ▸ Nat.max_eq_right (hlength ▸ hm))
      · exact .inr ⟨d, hd, hlength⟩

/-- A height that is reached and not exceeded is the greatest one. -/
lemma Column.greatestHeight_eq (hle : ∀ c ∈ columns, c.length ≤ n)
    (hreach : ∃ c ∈ columns, c.length = n) : greatestHeight columns = n :=
  foldl_max_eq hle (Nat.zero_le n) (.inr hreach)

/-! ### Columns side by side -/

/-- What stands for an expression in a table of a height: its column, or its single value in every
row. -/
def Expr.Selected (e : Expr) (t : Table) (height : Nat) (c : Column) : Prop :=
  ∃ d, e.evaluate t = .ok d ∧ c = if e.isScalar then d.take (List.replicate height 0) else d

lemma Expr.selected_broadcast (hd : e.evaluate t = .ok d) (hfit : e.isScalar ∨ t.height = n) :
    e.Selected t n (d.broadcast n) := by
  refine ⟨d, hd, ?_⟩
  have hlength := (evaluate_shaped hd).length_eq
  cases hscalar : e.isScalar with
  | true =>
    rw [hscalar, if_pos rfl] at hlength
    exact Column.broadcast_eq_take hlength n
  | false =>
    rw [hscalar, if_neg Bool.false_ne_true] at hlength
    rw [hscalar] at hfit
    exact Column.broadcast_of_length_eq (hlength.trans (hfit.resolve_left Bool.false_ne_true))

lemma Expr.Selected.name_eq (h : e.Selected t n c) : c.name = e.outputName := by
  obtain ⟨d, hd, rfl⟩ := h
  cases e.isScalar with
  | true => exact (evaluate_shaped hd).name_eq
  | false => exact (evaluate_shaped hd).name_eq

lemma Expr.Selected.length_eq (h : e.Selected t n c) (hfit : e.isScalar ∨ t.height = n) :
    c.length = n := by
  obtain ⟨d, hd, rfl⟩ := h
  have hlength := (evaluate_shaped hd).length_eq
  cases hscalar : e.isScalar with
  | true => rw [if_pos rfl, Column.length_take, List.length_replicate]
  | false =>
    rw [hscalar, if_neg Bool.false_ne_true] at hlength
    rw [hscalar] at hfit
    exact hlength.trans (hfit.resolve_left Bool.false_ne_true)

namespace Table

section Evaluated

variable (hall : List.Forall₂ (fun e c => e.evaluate t = .ok c) exprs columns)
include hall

lemma selectExprs_eq :
    t.selectExprs exprs =
      ofColumns (columns.map (·.broadcast (Column.greatestHeight columns))) := by
  rw [selectExprs, evaluateAll, mapM_eq_ok_iff.mpr hall]
  rfl

lemma exists_length_eq (hc : c ∈ columns) :
    ∃ e ∈ exprs, c.length = if e.isScalar then 1 else t.height := by
  obtain ⟨e, he, heval⟩ := exists_mem_of_forall₂_right hall hc
  exact ⟨e, he, (Expr.evaluate_shaped heval).length_eq⟩

lemma exists_mem_length_eq (he : e ∈ exprs) :
    ∃ c ∈ columns, c.length = if e.isScalar then 1 else t.height := by
  obtain ⟨c, hc, heval⟩ := exists_mem_of_forall₂ hall he
  exact ⟨c, hc, (Expr.evaluate_shaped heval).length_eq⟩

/-- Single values alone have one row. -/
lemma greatestHeight_of_scalars (hexprs : exprs ≠ []) (hscalar : ∀ e ∈ exprs, e.isScalar) :
    Column.greatestHeight columns = 1 := by
  apply Column.greatestHeight_eq
  · intro c hc
    obtain ⟨e, he, hlength⟩ := exists_length_eq hall hc
    exact Nat.le_of_eq (hlength.trans (if_pos (hscalar e he)))
  · obtain ⟨e, he⟩ := List.exists_mem_of_ne_nil _ hexprs
    obtain ⟨c, hc, hlength⟩ := exists_mem_length_eq hall he
    exact ⟨c, hc, hlength.trans (if_pos (hscalar e he))⟩

/-- A column of the height of the table is the greatest one, unless a single value is greater. -/
lemma greatestHeight_of_column (he : e ∈ exprs) (hcolumn : e.isScalar = false)
    (hscalar : t.height ≠ 0 ∨ ∀ e ∈ exprs, e.isScalar = false) :
    Column.greatestHeight columns = t.height := by
  apply Column.greatestHeight_eq
  · intro c hc
    obtain ⟨e, he, hlength⟩ := exists_length_eq hall hc
    rw [hlength]
    split
    · next hone =>
      rcases hscalar with hrows | hnone
      · exact Nat.one_le_iff_ne_zero.mpr hrows
      · exact absurd hone (Bool.eq_false_iff.mp (hnone e he))
    · exact Nat.le_refl _
  · obtain ⟨c, hc, hlength⟩ := exists_mem_length_eq hall he
    exact ⟨c, hc, hlength.trans (if_neg (Bool.eq_false_iff.mp hcolumn))⟩

/-- Columns that all fit the greatest height form a table of this height. -/
lemma exists_selectExprs (hn : Column.greatestHeight columns = n)
    (hfit : ∀ e ∈ exprs, e.isScalar ∨ t.height = n) (hexprs : exprs ≠ [])
    (hnames : (exprs.map Expr.outputName).Nodup) :
    ∃ out, t.selectExprs exprs = .ok out ∧ out.height = n ∧
      List.Forall₂ (fun e c => e.Selected t n c) exprs out.columns := by
  have hselected : List.Forall₂ (fun e c => e.Selected t n c) exprs
      (columns.map (·.broadcast n)) := by
    rw [List.forall₂_map_right_iff]
    exact (forall₂_with_mem hall).imp fun e c h => Expr.selected_broadcast h.2 (hfit e h.1)
  have hlength : ∀ c ∈ columns.map (·.broadcast n), c.length = n := by
    intro c hc
    obtain ⟨e, he, h⟩ := exists_mem_of_forall₂_right hselected hc
    exact h.length_eq (hfit e he)
  obtain ⟨out, hout⟩ := exists_ofColumns_iff.mpr
    ⟨fun c hc d hd => (hlength c hc).trans (hlength d hd).symm, by
      rw [Column.DistinctNames, map_eq_of_forall₂ hselected fun e c h => h.name_eq]
      exact hnames⟩
  have hcolumns := ofColumns_eq_ok_iff.mp hout
  refine ⟨out, by rw [selectExprs_eq hall, hn, hout], ?_, hcolumns ▸ hselected⟩
  obtain ⟨e, he⟩ := List.exists_mem_of_ne_nil _ hexprs
  obtain ⟨c, hc, -⟩ := exists_mem_of_forall₂ hselected he
  rw [← length_of_mem (hcolumns ▸ hc), hlength c hc]

/-- Without rows a single value and a column do not form a table: the greatest height is that of the
single value, which the column does not have. -/
lemma selectExprs_ne_ok (hrows : t.height = 0) (he : e ∈ exprs) (hscalar : e.isScalar)
    {e' : Expr} (he' : e' ∈ exprs) (hcolumn : e'.isScalar = false) :
    t.selectExprs exprs ≠ .ok out := by
  -- With no rows in the table the longest column is that of the single value.
  have hgreatest : Column.greatestHeight columns = 1 := by
    apply Column.greatestHeight_eq
    · intro c hc
      obtain ⟨e, -, hlength⟩ := exists_length_eq hall hc
      rw [hlength, hrows]
      split
      · exact Nat.le_refl 1
      · exact Nat.zero_le 1
    · obtain ⟨c, hc, hlength⟩ := exists_mem_length_eq hall he
      exact ⟨c, hc, hlength.trans (if_pos hscalar)⟩
  obtain ⟨c, hc, hone⟩ := exists_mem_length_eq hall he
  obtain ⟨d, hd, hzero⟩ := exists_mem_length_eq hall he'
  rw [if_pos hscalar] at hone
  rw [hcolumn, if_neg Bool.false_ne_true, hrows] at hzero
  rw [selectExprs_eq hall, hgreatest]
  intro hout
  obtain ⟨hheight, -⟩ := exists_ofColumns_iff.mp ⟨out, hout⟩
  -- The two columns would be equally high, and one has a row where the other has none.
  have heq := hheight _ (List.mem_map_of_mem hc) _ (List.mem_map_of_mem hd)
  rw [Column.broadcast_one, Column.broadcast_one, hone, hzero] at heq
  exact Nat.one_ne_zero heq

end Evaluated

/-- Expressions that can be evaluated on a table and have distinct names are selected if and only if
the table has rows or they are not mixed: all give single values, or none does. The result has the
height of the table if there is an expression that is no single value, and one row otherwise. Its columns
are those of the expressions, and the single values are repeated in every row. -/
theorem run_select_iff {input : Plan} (hinput : input.run = .ok t) (hexprs : exprs ≠ [])
    (heval : ∀ e ∈ exprs, ∃ c, e.evaluate t = .ok c)
    (hnames : (exprs.map Expr.outputName).Nodup) :
    ((∃ out, (Plan.select input exprs).run = .ok out) ↔
      t.height ≠ 0 ∨ (∀ e ∈ exprs, e.isScalar) ∨ ∀ e ∈ exprs, e.isScalar = false) ∧
    ∀ out, (Plan.select input exprs).run = .ok out →
      ((∃ e ∈ exprs, e.isScalar = false) → out.height = t.height) ∧
      ((∀ e ∈ exprs, e.isScalar) → out.height = 1) ∧
      List.Forall₂ (fun e c => e.Selected t out.height c) exprs out.columns := by
  obtain ⟨columns, hcolumns⟩ := exists_mapM_eq_ok_iff.mpr heval
  have hall := mapM_eq_ok_iff.mp hcolumns
  have hrun : (Plan.select input exprs).run = t.selectExprs exprs := by
    rw [Plan.run, hinput, ok_bind]
  rw [hrun]
  -- Only single values beside columns without rows do not fit together.
  by_cases hscalars : ∀ e ∈ exprs, e.isScalar
  · obtain ⟨u, hu, hheight, hselected⟩ := exists_selectExprs hall
      (greatestHeight_of_scalars hall hexprs hscalars) (fun e he => .inl (hscalars e he)) hexprs hnames
    refine ⟨⟨fun _ => .inr (.inl hscalars), fun _ => ⟨u, hu⟩⟩, ?_⟩
    rintro out hout
    obtain rfl := Except.ok.inj (hu.symm.trans hout)
    refine ⟨?_, fun _ => hheight, hheight ▸ hselected⟩
    rintro ⟨e, he, hcolumn⟩
    exact absurd (hscalars e he) (Bool.eq_false_iff.mp hcolumn)
  · obtain ⟨e, he, hcolumn⟩ : ∃ e ∈ exprs, e.isScalar = false := by simpa using hscalars
    by_cases hfit : t.height ≠ 0 ∨ ∀ e ∈ exprs, e.isScalar = false
    · obtain ⟨u, hu, hheight, hselected⟩ := exists_selectExprs hall
        (greatestHeight_of_column hall he hcolumn hfit) (fun _ _ => .inr rfl) hexprs hnames
      refine ⟨⟨fun _ => hfit.imp_right .inr, fun _ => ⟨u, hu⟩⟩, ?_⟩
      rintro out hout
      obtain rfl := Except.ok.inj (hu.symm.trans hout)
      exact ⟨fun _ => hheight, fun h => absurd h hscalars, hheight ▸ hselected⟩
    · rw [not_or, not_not] at hfit
      obtain ⟨e', he', hscalar⟩ : ∃ e ∈ exprs, e.isScalar = true := by simpa using hfit.2
      have hne : ∀ out, t.selectExprs exprs ≠ .ok out := fun out =>
        selectExprs_ne_ok hall hfit.1 he' hscalar he hcolumn
      refine ⟨⟨fun ⟨out, hout⟩ => absurd hout (hne out), ?_⟩, fun out hout => absurd hout (hne out)⟩
      rintro (hrows | h | h)
      · exact absurd hfit.1 hrows
      · exact absurd h hscalars
      · exact absurd h hfit.2

/-- A sum beside the column that it is the sum of. -/
theorem run_select_iff_mixed :
    let exprs : List Expr := [.col "n", .named (.reduce (.col "n") .sum) "total"]
    ∃ t out : Table, t.columns = [⟨"n", .int64, [some 1, none, some 3]⟩] ∧
      (Plan.scan t).run = .ok t ∧ exprs ≠ [] ∧ (∀ e ∈ exprs, ∃ c, e.evaluate t = .ok c) ∧
      (exprs.map Expr.outputName).Nodup ∧ (Plan.select (.scan t) exprs).run = .ok out ∧
      out.height = t.height ∧
      List.Forall₂ (fun e c => e.Selected t out.height c) exprs out.columns := by
  intro exprs
  let t : Table :=
    { columns := [⟨"n", .int64, [some 1, none, some 3]⟩]
      sameHeight := by simp [Column.SameHeight]
      distinctNames := by simp [Column.DistinctNames] }
  have hexprs : exprs ≠ [] := List.cons_ne_nil _ _
  have heval : ∀ e ∈ exprs, ∃ c, e.evaluate t = .ok c :=
    List.forall_mem_cons.mpr ⟨⟨_, rfl⟩, List.forall_mem_singleton.mpr ⟨_, rfl⟩⟩
  have hnames : (exprs.map Expr.outputName).Nodup := by simp [exprs, Expr.outputName]
  have ht : (Plan.scan t).run = .ok t := rfl
  obtain ⟨hiff, hselect⟩ := run_select_iff ht hexprs heval hnames
  obtain ⟨out, hout⟩ := hiff.mpr (.inl (by decide))
  obtain ⟨hheight, -, hselected⟩ := hselect out hout
  exact ⟨t, out, rfl, ht, hexprs, heval, hnames, hout,
    hheight ⟨.col "n", List.mem_cons_self, rfl⟩, hselected⟩

/-- A literal beside a column without rows. -/
theorem run_select_without_rows :
    let exprs : List Expr := [.col "n", .lit (.int64 1)]
    ∃ t : Table, t.columns = [⟨"n", .int64, []⟩] ∧ exprs ≠ [] ∧
      (∀ e ∈ exprs, ∃ c, e.evaluate t = .ok c) ∧ (exprs.map Expr.outputName).Nodup ∧
      (Plan.select (.scan t) exprs).run = .error (.unevenColumn "literal" 1 0) := by
  intro exprs
  let t : Table :=
    { columns := [⟨"n", .int64, []⟩]
      sameHeight := by simp [Column.SameHeight]
      distinctNames := by simp [Column.DistinctNames] }
  refine ⟨t, rfl, List.cons_ne_nil _ _, ?_, ?_, rfl⟩
  · exact List.forall_mem_cons.mpr ⟨⟨_, rfl⟩, List.forall_mem_singleton.mpr ⟨_, rfl⟩⟩
  · simp [exprs, Expr.outputName, Expr.literalName]

end Table
end TimeTable
