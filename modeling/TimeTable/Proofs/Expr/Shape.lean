import TimeTable.Proofs.Column.Cellwise
import TimeTable.Proofs.Column.Pairwise
import TimeTable.Proofs.Column.Scalars
import TimeTable.Proofs.Table.Columns

namespace TimeTable.Expr

variable {e : Expr} {t : Table} {c d l r : Column}

@[simp] lemma eval_col (name : String) (t : Table) : (col name).eval t = t.column name := rfl

@[simp] lemma eval_named (e : Expr) (name : String) (t : Table) :
    (named e name).eval t = (e.eval t).map (·.rename name) := rfl

@[simp] lemma eval_temporal (e : Expr) (op : TemporalOp) (t : Table) :
    (temporal e op).eval t = e.eval t >>= fun c => op.apply c := rfl

@[simp] lemma eval_compare (left right : Expr) (op : Comparison) (t : Table) :
    (compare left op right).eval t =
      left.eval t >>= fun l => right.eval t >>= fun r => l.compare op r := rfl

@[simp] lemma eval_arithmetic (left right : Expr) (op : Arithmetic) (t : Table) :
    (arithmetic left op right).eval t =
      left.eval t >>= fun l => right.eval t >>= fun r => l.arithmetic op r := rfl

@[simp] lemma eval_reduce (e : Expr) (func : Reducer) (t : Table) :
    (reduce e func).eval t = e.eval t >>= fun c => c.reduced func := rfl

/-- The type of the column that an expression gives, from the types of the columns of a table. -/
def type? (schema : String → Option DataType) : Expr → Option DataType
  | col name => schema name
  | lit value => some value.dtype
  | named input _ => input.type? schema
  | temporal input op => do op.outputType? (← input.type? schema)
  | compare left _ right => do Column.compareType? (← left.type? schema) (← right.type? schema)
  | arithmetic left op right => do
    Column.arithmeticType? op (← left.type? schema) (← right.type? schema)
  | reduce input func => do some (func.outputType (← input.type? schema))

/-- What is known of the column of an expression on a table without its cells. -/
structure Shaped (e : Expr) (t : Table) (c : Column) : Prop where
  name_eq : c.name = e.outputName
  length_eq : c.length = if e.isScalar then 1 else t.height
  type_eq : e.type? t.schema = some c.dtype

lemma Shaped.col {name : String} (h : t.column name = .ok c) : Shaped (col name) t c := by
  have hcolumn := Table.column_eq_ok_iff.mp h
  obtain ⟨hmem, hname⟩ := Table.column?_eq_some hcolumn
  exact ⟨hname, Table.length_of_mem hmem, congrArg (Option.map Column.dtype) hcolumn⟩

lemma Shaped.lit {v : Scalar} (h : Column.literal literalName v = .ok c) : Shaped (lit v) t c := by
  obtain ⟨cell, hcell, -⟩ := Column.literal_eq_ok literalName v
  obtain rfl := Except.ok.inj (hcell.symm.trans h)
  exact ⟨rfl, rfl, rfl⟩

lemma Shaped.named {name : String} (h : Shaped e t c) :
    Shaped (named e name) t (c.rename name) :=
  ⟨rfl, h.length_eq, h.type_eq⟩

lemma Shaped.temporal {op : TemporalOp} (h : Shaped e t c) (hd : op.apply c = .ok d) :
    Shaped (temporal e op) t d := by
  obtain ⟨hname, hlength, htype⟩ := (Column.apply_cellwise op c.dtype).eq_ok hd
  refine ⟨hname.trans h.name_eq, hlength.trans h.length_eq, ?_⟩
  rw [type?, h.type_eq]
  exact htype

lemma Shaped.compare {left right : Expr} {op : Comparison} (hl : Shaped left t l)
    (hr : Shaped right t r) (hc : l.compare op r = .ok c) : Shaped (compare left op right) t c := by
  obtain ⟨hname, hlength, htype⟩ :=
    (Column.compare_pairwise op l.dtype r.dtype).eq_ok hl.length_eq hr.length_eq hc
  refine ⟨hname.trans hl.name_eq, hlength, ?_⟩
  rw [type?, hl.type_eq, hr.type_eq]
  exact htype

lemma Shaped.arithmetic {left right : Expr} {op : Arithmetic} (hl : Shaped left t l)
    (hr : Shaped right t r) (hc : l.arithmetic op r = .ok c) :
    Shaped (arithmetic left op right) t c := by
  obtain ⟨hname, hlength, htype⟩ :=
    (Column.arithmetic_pairwise op l.dtype r.dtype).eq_ok hl.length_eq hr.length_eq hc
  refine ⟨hname.trans hl.name_eq, hlength, ?_⟩
  rw [type?, hl.type_eq, hr.type_eq]
  exact htype

lemma Shaped.reduce {func : Reducer} (h : Shaped e t c) (hd : c.reduced func = .ok d) :
    Shaped (reduce e func) t d := by
  obtain ⟨cell, rfl⟩ := Column.reduced_eq_ok hd
  refine ⟨h.name_eq, rfl, ?_⟩
  rw [type?, h.type_eq]
  rfl

/-- The column of an expression has the shape that is known without evaluation. -/
lemma eval_shaped (h : e.eval t = .ok c) : Shaped e t c := by
  induction e generalizing c with
  | col name => exact .col h
  | lit v => exact .lit h
  | named input name ih =>
    rw [eval_named] at h
    obtain ⟨d, hd, rfl⟩ := map_eq_ok.mp h
    exact (ih hd).named
  | temporal input op ih =>
    rw [eval_temporal] at h
    obtain ⟨d, hd, hc⟩ := bind_eq_ok.mp h
    exact (ih hd).temporal hc
  | compare left op right ihl ihr =>
    rw [eval_compare] at h
    obtain ⟨l, hl, h⟩ := bind_eq_ok.mp h
    obtain ⟨r, hr, hc⟩ := bind_eq_ok.mp h
    exact (ihl hl).compare (ihr hr) hc
  | arithmetic left op right ihl ihr =>
    rw [eval_arithmetic] at h
    obtain ⟨l, hl, h⟩ := bind_eq_ok.mp h
    obtain ⟨r, hr, hc⟩ := bind_eq_ok.mp h
    exact (ihl hl).arithmetic (ihr hr) hc
  | reduce input func ih =>
    rw [eval_reduce] at h
    obtain ⟨d, hd, hc⟩ := bind_eq_ok.mp h
    exact (ih hd).reduce hc

end TimeTable.Expr
