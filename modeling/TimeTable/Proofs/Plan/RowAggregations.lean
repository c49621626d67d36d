import Mathlib.Data.List.TakeDrop
import TimeTable.Proofs.Plan.Slices

/-!
# Aggregations that gather rows

What slices take from the rows of a table can also be aggregated. The first or last values of all columns
beside the keys make the table of the first or last rows. The values of an aggregation that gives no
single value are those of its list. And the lists of a column hold one after another what the column
holds on the rows of slices that are long enough.
-/

namespace TimeTable

variable {t u full : Table} {keys : List Column} {c column column' : Column} {names : List String}
  {name : String} {index : GroupIndex} {slice : GroupSlice} {rows group : List Nat} {e : Expr}
  {n : Nat}

/-! ### The row at an end -/

namespace GroupSlice

/-- The place of the row at the end of a group that is kept. -/
def place (slice : GroupSlice) (rows : List Nat) : Nat :=
  match slice with
  | head => 0
  | tail => rows.length - 1

/-- The row at the end of a group that is kept. -/
def edge (slice : GroupSlice) (rows : List Nat) : Nat := rows.getD (slice.place rows) 0

/-- The reduction to the value at the end of a group that is kept. -/
def reducer : GroupSlice → Reducer
  | head => .first
  | tail => .last

lemma place_lt (slice : GroupSlice) (h : rows ≠ []) : slice.place rows < rows.length := by
  have hlength := List.length_pos_iff.mpr h
  cases slice with
  | head => exact hlength
  | tail => exact Nat.sub_lt hlength Nat.one_pos

lemma edge_mem (slice : GroupSlice) (h : rows ≠ []) : slice.edge rows ∈ rows :=
  getD_mem (slice.place_lt h) 0

/-- A slice of one row. -/
lemma apply_one (slice : GroupSlice) (h : rows ≠ []) : slice.apply rows 1 = [slice.edge rows] := by
  cases slice with
  | head =>
    obtain ⟨row, rest, rfl⟩ := List.exists_cons_of_ne_nil h
    rfl
  | tail =>
    rw [apply, List.drop_length_sub_one h, List.getLast_eq_getElem, edge,
      List.getD_eq_getElem _ _ (place_lt tail h)]
    rfl

lemma selectRows_one (slice : GroupSlice) (h : ∀ group ∈ index.groups, group ≠ []) :
    slice.selectRows index 1 = index.groups.map slice.edge := by
  rw [selectRows, List.map_eq_flatMap]
  exact List.flatMap_congr fun group hgroup => slice.apply_one (h group hgroup)

end GroupSlice

/-- In its columns a group has one value, in whatever row. -/
lemma Column.take_firstRows_eq (slice : GroupSlice) (hc : c ∈ keys) :
    c.take (GroupIndex.ofKeys keys n).firstRows =
      c.take (slice.selectRows (.ofKeys keys n) 1) := by
  have hgroups := (GroupIndex.classifies_ofKeys keys n).nonempty
  rw [GroupIndex.firstRows_eq_map hgroups, slice.selectRows_one hgroups, take_eq, take_eq, List.map_map,
    List.map_map]
  refine congrArg _ (List.map_congr_left fun group hgroup => cell_eq_of_get_eq ?_)
  have hsame := GroupIndex.same_of_mem_classes (sameRow_equivalence keys) hgroup _
    (GroupIndex.headD_mem (hgroups group hgroup)) _ (slice.edge_mem (hgroups group hgroup))
  exact sameRow_iff.mp hsame c hc

namespace Expr

/-- The column of the value of a column at the end of some rows. -/
lemma exists_evaluate_edge (hc : full.column? name = some c) (slice : GroupSlice) (rows : List Nat) :
    ∃ cell, (reduce (col name) slice.reducer).evaluate (full.take rows) = .ok ⟨name, c.dtype, [cell]⟩ ∧
      (rows ≠ [] → c.dtype.toScalarOrNull cell = c.get (slice.edge rows)) := by
  -- A reducer of the edge reads the cell at the place of the edge, as a slice by one row does.
  have hreduce : (c.take rows).reduce slice.reducer =
      .ok ((c.take rows).get (slice.place rows)) := by
    cases slice with
    | head => rfl
    | tail =>
      rw [GroupSlice.reducer, Column.reduce, Column.length_take]
      rfl
  have htype : slice.reducer.outputType c.dtype = c.dtype := by cases slice <;> rfl
  have hreduced : (c.take rows).reduced slice.reducer =
      .ok ⟨c.name, c.dtype, [(c.take rows).cell (slice.place rows)]⟩ := by
    rw [Column.reduced, hreduce, ok_bind, Column.dtype_take, htype]
    exact Column.ofScalars_toScalarOrNull c.name c.dtype [(c.take rows).cell (slice.place rows)]
  refine ⟨(c.take rows).cell (slice.place rows), ?_, ?_⟩
  · rw [evaluate, eval_reduce, eval_col, Table.column_take rows (Table.column_eq_ok_iff.mpr hc), ok_bind,
      hreduced, map_ok]
    rfl
  · intro hne
    exact Column.get_take (getElem?_eq_some_getD (slice.place_lt hne) 0)

lemma Aggregates.eq_take_edge (h : (reduce (col name) slice.reducer).Aggregates full index column)
    (hc : full.column? name = some c) (hgroups : ∀ group ∈ index.groups, group ≠ []) :
    column = c.take (slice.selectRows index 1) := by
  rw [slice.selectRows_one hgroups]
  apply Column.eq_of_toScalars_eq
  · rw [h.name_eq, Column.name_take, (Table.column?_eq_some hc).2]
    rfl
  · obtain ⟨cell, hcell, -⟩ := exists_evaluate_edge hc slice []
    have htype := h.type_eq [] _ hcell
    exact htype
  · rw [h.toScalars_eq, Column.toScalars_take, List.map_map]
    refine List.map_congr_left fun group hgroup => ?_
    obtain ⟨cell, hcell, hget⟩ := exists_evaluate_edge hc slice group
    rw [cellOn, hcell]
    exact hget (hgroups group hgroup)

end Expr

namespace Table

/-! ### First and last rows -/

lemma map_name_others (t : Table) (keys : List Column) :
    (t.others keys).map Column.name = t.names.filter (· ∉ keys.map Column.name) := by
  rw [names, List.filter_map, others]
  refine congrArg _ (List.filter_congr fun c _ => ?_)
  rw [Bool.eq_iff_iff]
  simp

lemma column?_withKeys_of_mem (hlength : ∀ key ∈ keys, key.length = t.height) (hc : c ∈ t.columns) :
    (t.withKeys keys hlength).column? c.name = some c := by
  rw [column?_withKeys, column?_eq_some_iff.mpr ⟨hc, rfl⟩, Option.some_or]

section Edge

variable (hlength : ∀ key ∈ keys, key.length = t.height) (hnodup : (keys.map Column.name).Nodup)
include hlength hnodup

/-- The reductions of all columns beside the keys to the values at an end of each group. -/
lemma exists_aggregate_edge (slice : GroupSlice) : ∃ g, t.aggregate (.ofKeys keys t.height) keys
    ((t.others keys).map fun c => .reduce (.col c.name) slice.reducer) = .ok g := by
  rw [exists_aggregate_iff hlength (GroupIndex.classifies_ofKeys keys t.height).nonempty]
  simp only [List.forall_mem_map]
  refine ⟨?_, ?_, ?_⟩
  · intro c hc name hname
    rw [List.mem_singleton.mp hname]
    exact .inl (List.mem_map_of_mem (mem_others.mp hc).1)
  · intro c hc rows _
    obtain ⟨cell, hcell, -⟩ := Expr.exists_evaluate_edge
      (column?_withKeys_of_mem hlength (mem_others.mp hc).1) slice rows
    exact ⟨_, hcell⟩
  · have hnames := nodup_names_others (t := t) hnodup
    rw [List.map_append] at hnames
    rw [List.map_map]
    exact hnames

/-- The values at an end of each group make the slices of one row. -/
lemma groupStep_edge (slice : GroupSlice) :
    t.groupStep keys (.agg ((t.others keys).map fun c => .reduce (.col c.name) slice.reducer)) =
      t.groupStep keys (.slice slice 1) := by
  obtain ⟨g, hg⟩ := exists_aggregate_edge hlength hnodup slice
  obtain ⟨u, hu⟩ := exists_sliceGroups (t := t) hnodup (.ofKeys keys t.height) slice 1
  obtain ⟨columns, hcolumns, haggregates⟩ := columns_of_aggregate hlength hg
  have hothers : columns =
      (t.others keys).map (·.take (slice.selectRows (.ofKeys keys t.height) 1)) := by
    rw [List.forall₂_map_left_iff] at haggregates
    rw [← List.map_id columns]
    refine map_eq_of_forall₂ (forall₂_with_mem haggregates) ?_
    rintro c column ⟨hc, hcolumn⟩
    exact hcolumn.eq_take_edge (column?_withKeys_of_mem hlength (mem_others.mp hc).1)
      (GroupIndex.classifies_ofKeys keys t.height).nonempty
  rw [groupStep, groupStep, hg, hu]
  refine congrArg Except.ok (eq_of_columns_eq ?_)
  rw [hcolumns, columns_sliceGroups hu, hothers, List.map_append]
  exact congrArg (· ++ _) (List.map_congr_left fun key hkey => Column.take_firstRows_eq slice hkey)

end Edge

lemma groupBy_edge (hnodup : names.Nodup) (slice : GroupSlice) :
    t.groupBy (names.map .col)
        (.agg ((t.names.filter (· ∉ names)).map fun name => .reduce (.col name) slice.reducer)) =
      t.groupBy (names.map .col) (.slice slice 1) := by
  rw [groupBy_cols_eq, groupBy_cols_eq]
  cases hkeys : names.mapM t.column with
  | error fault => rfl
  | ok keys =>
    have hlength := length_of_mapM_column hkeys
    have hmap := map_name_of_mapM_column hkeys
    rw [← hmap] at hnodup ⊢
    rw [ok_bind, ok_bind, ← map_name_others, List.map_map, ← groupStep_edge hlength hnodup slice]
    rfl

end Table

/-! ### Lists -/

namespace Expr

/-- The list of the values of an expression, where it has values. -/
lemma evaluate_list (e : Expr) (t : Table) : (reduce e .list).evaluate t =
    (e.evaluate t).map fun c => ⟨c.name, .list c.dtype, [some c.toScalars]⟩ := by
  rw [evaluate, evaluate, eval_reduce]
  cases e.eval t with
  | error fault => rfl
  | ok c =>
    have hreduced : c.reduced .list = .ok ⟨c.name, .list c.dtype, [some c.toScalars]⟩ :=
      Column.ofScalars_toScalarOrNull c.name (.list c.dtype) [some c.toScalars]
    rw [ok_bind, hreduced]
    rfl

variable (he : e.isScalar = false)
include he

lemma cellOn_list (group : Table) : (reduce e .list).cellOn group = e.cellOn group := by
  rw [cellOn, cellOn, evaluate_list]
  cases e.evaluate group with
  | error fault => rfl
  | ok c =>
    show _ = e.groupCell c
    rw [groupCell, he]
    rfl

/-- An aggregation that gives no single value has the column of its lists. -/
lemma Aggregates.eq_list (h : e.Aggregates full index column)
    (h' : (reduce e .list).Aggregates full index column') (hc : e.evaluate (full.take rows) = .ok c) :
    column' = column := by
  have hlist := evaluate_list e (full.take rows)
  rw [hc, map_ok] at hlist
  apply Column.eq_of_toScalars_eq
  · rw [h.name_eq, h'.name_eq]
    rfl
  · have htype := h.type_eq rows c hc
    rw [he, if_neg Bool.false_ne_true] at htype
    rw [htype, h'.type_eq rows _ hlist]
    rfl
  · rw [h.toScalars_eq, h'.toScalars_eq]
    exact List.map_congr_left fun group _ => cellOn_list he _

end Expr

namespace Table

/-- The column of the only aggregation. -/
lemma column_of_aggregate (hlength : ∀ key ∈ keys, key.length = t.height)
    (hu : t.aggregate index keys [e] = .ok u) :
    ∃ column, u.columns = keys.map (·.take index.firstRows) ++ [column] ∧
      e.Aggregates (t.withKeys keys hlength) index column := by
  obtain ⟨columns, hcolumns, haggregates⟩ := columns_of_aggregate hlength hu
  obtain ⟨column, _, hcolumn, hnil, rfl⟩ := List.forall₂_cons_left_iff.mp haggregates
  obtain rfl := List.forall₂_nil_left_iff.mp hnil
  exact ⟨column, hcolumns, hcolumn⟩

section AggregatedLists

variable (hlength : ∀ key ∈ keys, key.length = t.height)
  (hgroups : ∀ group ∈ index.groups, group ≠ [])
include hlength hgroups

/-- Values can be aggregated if and only if their lists can. -/
lemma exists_aggregate_list_iff (e : Expr) :
    (∃ u, t.aggregate index keys [.reduce e .list] = .ok u) ↔
      ∃ u, t.aggregate index keys [e] = .ok u := by
  have hevaluate : ∀ group, (∃ c, (Expr.reduce e .list).evaluate group = .ok c) ↔
      ∃ c, e.evaluate group = .ok c := by
    intro group
    simp only [Expr.evaluate_list, map_eq_ok]
    constructor
    · rintro ⟨_, c, hc, -⟩
      exact ⟨c, hc⟩
    · rintro ⟨c, hc⟩
      exact ⟨_, c, hc, rfl⟩
  rw [exists_aggregate_iff hlength hgroups, exists_aggregate_iff hlength hgroups]
  simp only [List.forall_mem_singleton, hevaluate]
  exact Iff.rfl

variable (he : e.isScalar = false)
include he

lemma eq_of_aggregate_list {v w : Table} (hv : t.aggregate index keys [.reduce e .list] = .ok v)
    (hw : t.aggregate index keys [e] = .ok w) : v = w := by
  -- There is a sample even without groups, and the expression has a type on it.
  obtain ⟨-, hsamples, -⟩ := (exists_aggregate_iff hlength hgroups).mp ⟨w, hw⟩
  obtain ⟨rows, hrows⟩ := index.exists_sample
  obtain ⟨c, hc⟩ := hsamples e List.mem_cons_self rows hrows
  obtain ⟨column, hcolumns, hcolumn⟩ := column_of_aggregate hlength hv
  obtain ⟨column', hcolumns', hcolumn'⟩ := column_of_aggregate hlength hw
  apply eq_of_columns_eq
  rw [hcolumns, hcolumns', hcolumn'.eq_list he hcolumn hc]

lemma aggregate_list :
    t.aggregate index keys [.reduce e .list] = .ok u ↔ t.aggregate index keys [e] = .ok u := by
  constructor
  · intro h
    obtain ⟨w, hw⟩ := (exists_aggregate_list_iff hlength hgroups e).mp ⟨u, h⟩
    rw [eq_of_aggregate_list hlength hgroups he h hw, hw]
  · intro h
    obtain ⟨v, hv⟩ := (exists_aggregate_list_iff hlength hgroups e).mpr ⟨u, h⟩
    rw [← eq_of_aggregate_list hlength hgroups he hv h, hv]

end AggregatedLists

lemma groupBy_list (exprs : List Expr) (he : e.isScalar = false) :
    t.groupBy exprs (.agg [.reduce e .list]) = .ok u ↔ t.groupBy exprs (.agg [e]) = .ok u := by
  rw [groupBy_eq_ok_iff, groupBy_eq_ok_iff]
  refine exists_congr fun keys => and_congr_right fun hkeys => and_congr_right fun _ => ?_
  exact aggregate_list (length_of_keyColumns hkeys)
    (GroupIndex.classifies_ofKeys keys t.height).nonempty he

/-! ### Lists one after another -/

section Lists

variable (hlength : ∀ key ∈ keys, key.length = t.height) (hnodup : (keys.map Column.name).Nodup)
  (hc : c ∈ t.columns) (hname : c.name ∉ keys.map Column.name)
include hc

lemma evaluate_col_take (rows : List Nat) :
    (Expr.col c.name).evaluate ((t.withKeys keys hlength).take rows) = .ok (c.take rows) := by
  have hcolumn := column_eq_ok_iff.mpr (column?_withKeys_of_mem hlength hc)
  rw [Expr.evaluate, Expr.eval_col, column_take rows hcolumn]
  rfl

include hnodup hname

/-- The column on the rows of heads that are long enough. -/
lemma exists_sliceGroups_all
    (hn : ∀ group ∈ (GroupIndex.ofKeys keys t.height).groups, group.length ≤ n) :
    ∃ u, t.sliceGroups (.ofKeys keys t.height) keys .head n = .ok u ∧
      u.column? c.name = some (c.take (GroupIndex.ofKeys keys t.height).groups.flatten) := by
  obtain ⟨u, hu⟩ := exists_sliceGroups (t := t) hnodup (.ofKeys keys t.height) .head n
  have hrows : GroupSlice.head.selectRows (.ofKeys keys t.height) n =
      (GroupIndex.ofKeys keys t.height).groups.flatten := by
    rw [GroupSlice.selectRows, ← List.flatMap_id]
    exact List.flatMap_congr fun group hgroup => GroupSlice.apply_of_length_le (hn group hgroup)
  refine ⟨u, hu, column?_eq_some_iff.mpr ⟨?_, rfl⟩⟩
  rw [columns_sliceGroups hu, hrows]
  exact List.mem_map_of_mem (List.mem_append_right _ (mem_others.mpr ⟨hc, hname⟩))

include hlength

/-- The lists of the values of a column that is no key. -/
lemma exists_aggregate_col : ∃ g column, t.aggregate (.ofKeys keys t.height) keys [.col c.name] = .ok g ∧
    g.column? c.name = some column ∧ column.dtype = .list c.dtype ∧
      column.toScalars = (GroupIndex.ofKeys keys t.height).groups.map fun group =>
        .list (group.map c.get) := by
  have hgroups := (GroupIndex.classifies_ofKeys keys t.height).nonempty
  obtain ⟨g, hg⟩ : ∃ g, t.aggregate (.ofKeys keys t.height) keys [.col c.name] = .ok g := by
    rw [exists_aggregate_iff hlength hgroups]
    simp only [List.forall_mem_singleton]
    refine ⟨?_, fun rows _ => ⟨_, evaluate_col_take hlength hc rows⟩, ?_⟩
    · intro name hname
      rw [List.mem_singleton.mp hname]
      exact .inl (List.mem_map_of_mem hc)
    · exact (List.perm_append_singleton _ _).nodup_iff.mpr (List.nodup_cons.mpr ⟨hname, hnodup⟩)
  obtain ⟨column, hcolumns, hcolumn⟩ := column_of_aggregate hlength hg
  refine ⟨g, column, hg, column?_eq_some_iff.mpr ⟨?_, hcolumn.name_eq⟩, ?_, ?_⟩
  · rw [hcolumns]
    exact List.mem_append_right _ List.mem_cons_self
  · have htype := hcolumn.type_eq [] _ (evaluate_col_take hlength hc [])
    exact htype
  · rw [hcolumn.toScalars_eq]
    refine List.map_congr_left fun group _ => ?_
    rw [Expr.cellOn, evaluate_col_take hlength hc, ← Column.toScalars_take]
    rfl

end Lists

end Table

/-- That a column holds lists which hold one after another what another column holds. -/
def Column.ListsOf (lists c : Column) : Prop :=
  lists.dtype = .list c.dtype ∧
    ∃ vs : List (List Scalar), lists.toScalars = vs.map .list ∧ c.toScalars = vs.flatten

namespace Table

/-- What the groups of a table by some of its columns give for some aggregations. -/
def aggBy (t : Table) (names : List String) (aggs : List Expr) : Except Fault Table :=
  (Plan.groupBy (.scan t) (names.map .col) (.agg aggs)).run

lemma aggBy_eq (t : Table) (names : List String) (aggs : List Expr) :
    t.aggBy names aggs = t.groupBy (names.map .col) (.agg aggs) :=
  Plan.run_groupBy_scan rfl

lemma exists_listsOf {m : Int64} (hnodup : names.Nodup) (hkeys : names.mapM t.column = .ok keys)
    (hindex : GroupIndex.build keys t.height = .ok index) (hc : c ∈ t.columns) (hname : c.name ∉ names)
    (hm : 0 ≤ m.toInt) (hsizes : ∀ size ∈ index.sizes, (size : Int) ≤ m.toInt) :
    ∃ g u lists heads, t.aggBy names [.col c.name] = .ok g ∧ t.sliceBy names .head m = .ok u ∧
      g.column? c.name = some lists ∧ u.column? c.name = some heads ∧ lists.ListsOf heads := by
  have hlength := length_of_mapM_column hkeys
  have hne : keys ≠ [] := by
    rintro rfl
    cases hindex
  obtain rfl := Except.ok.inj ((GroupIndex.build_eq_ok hne hlength).symm.trans hindex)
  rw [← map_name_of_mapM_column hkeys] at hnodup hname
  -- The slice is as long as the longest group, so it keeps every row of each.
  have hall : ∀ group ∈ (GroupIndex.ofKeys keys t.height).groups, group.length ≤ m.toInt.toNat := by
    intro group hgroup
    have hsize := hsizes group.length (List.mem_map_of_mem hgroup)
    omega
  obtain ⟨g, lists, hg, hlists, htype, hvalues⟩ := exists_aggregate_col hlength hnodup hc hname
  obtain ⟨u, hu, hheads⟩ := exists_sliceGroups_all hnodup hc hname hall
  refine ⟨g, u, lists, _, ?_, ?_, hlists, hheads, htype,
    (GroupIndex.ofKeys keys t.height).groups.map (List.map c.get), ?_, ?_⟩
  · rw [aggBy_eq, groupBy_cols_of_ok hkeys hne, groupStep, hg]
  · rw [sliceBy_eq hm, groupBy_cols_of_ok hkeys hne, groupStep, hu]
  · rw [hvalues, List.map_map]
    rfl
  · rw [Column.toScalars_take, List.map_flatten]

/-- Aggregations that gather rows agree with slices. The first or last values of all columns beside the
keys are the heads or tails of one row, in a table that is there if the keys are. An aggregation that
gives no single value is the same as its list. And for a column that is no key the lists of its values
hold one after another what it holds on heads that are not shorter than any group. -/
theorem aggBy_rows (t : Table) (hnodup : names.Nodup) :
    t.aggBy names ((t.names.filter (· ∉ names)).map fun name => .reduce (.col name) .first) =
        t.sliceBy names .head 1 ∧
      t.aggBy names ((t.names.filter (· ∉ names)).map fun name => .reduce (.col name) .last) =
        t.sliceBy names .tail 1 ∧
      (names ≠ [] → (∀ name ∈ names, name ∈ t.names) →
        ∀ slice, ∃ out, t.sliceBy names slice 1 = .ok out) ∧
      (∀ e : Expr, e.isScalar = false → ∀ out,
        t.aggBy names [e] = .ok out ↔ t.aggBy names [.reduce e .list] = .ok out) ∧
      ∀ keys index, names.mapM t.column = .ok keys → GroupIndex.build keys t.height = .ok index →
        ∀ c ∈ t.columns, c.name ∉ names → ∀ m : Int64, 0 ≤ m.toInt →
          (∀ size ∈ index.sizes, (size : Int) ≤ m.toInt) →
            ∃ g u lists heads, t.aggBy names [.col c.name] = .ok g ∧ t.sliceBy names .head m = .ok u ∧
              g.column? c.name = some lists ∧ u.column? c.name = some heads ∧ lists.ListsOf heads := by
  have hone : 0 ≤ (1 : Int64).toInt := by decide
  have hlength : (1 : Int64).toInt.toNat = 1 := by decide
  have hslice : ∀ slice, t.sliceBy names slice 1 = t.groupBy (names.map .col) (.slice slice 1) := by
    intro slice
    rw [sliceBy_eq hone, hlength]
  refine ⟨?_, ?_, ?_, ?_, ?_⟩
  · rw [aggBy_eq, hslice]
    exact groupBy_edge hnodup .head
  · rw [aggBy_eq, hslice]
    exact groupBy_edge hnodup .tail
  · exact fun hne hnames slice => exists_sliceBy hnodup hne hnames slice hone
  · intro e he out
    rw [aggBy_eq, aggBy_eq, groupBy_list (names.map .col) he]
  · intro keys index hkeys hindex c hc hname m hm hsizes
    exact exists_listsOf hnodup hkeys hindex hc hname hm hsizes

/-- A group without a key, among rows that lie apart. -/
theorem aggBy_rows_apart :
    let keys : List Column := [⟨"k", .utf8, [some "a", none, some "a"]⟩]
    ∃ (t g u : Table) (lists heads : Column),
      t.columns = [⟨"n", .int64, [some 1, none, some 3]⟩] ++ keys ∧
      ["k"].Nodup ∧ ["k"].mapM t.column = .ok keys ∧
      GroupIndex.build keys t.height = .ok ⟨[[0, 2], [1]], 3⟩ ∧
      t.aggBy ["k"] [.reduce (.col "n") .last] = t.sliceBy ["k"] .tail 1 ∧
      (∃ out, t.sliceBy ["k"] .tail 1 = .ok out) ∧
      t.aggBy ["k"] [.col "n"] = .ok g ∧ t.aggBy ["k"] [.reduce (.col "n") .list] = .ok g ∧
      t.sliceBy ["k"] .head 2 = .ok u ∧ g.column? "n" = some lists ∧ u.column? "n" = some heads ∧
      lists.ListsOf heads := by
  intro keys
  let t : Table :=
    { columns := [⟨"n", .int64, [some 1, none, some 3]⟩, ⟨"k", .utf8, [some "a", none, some "a"]⟩]
      sameHeight := by simp [Column.SameHeight, Column.length]
      distinctNames := by simp [Column.DistinctNames] }
  have hnodup : ["k"].Nodup := by decide
  have hkeys : ["k"].mapM t.column = .ok keys := rfl
  have hlength : ∀ key ∈ keys, key.length = t.height := List.forall_mem_singleton.mpr rfl
  have hindex : GroupIndex.build keys t.height = .ok ⟨[[0, 2], [1]], 3⟩ :=
    GroupIndex.build_eq_ok (List.cons_ne_nil _ _) hlength
  obtain ⟨-, hlast, hsome, hlist, hlists⟩ := aggBy_rows t hnodup
  obtain ⟨g, u, lists, heads, hg, hu, hglists, huheads, hlistsOf⟩ :=
    hlists keys _ hkeys hindex _ List.mem_cons_self (by decide) 2 (by decide) (by decide)
  exact ⟨t, g, u, lists, heads, rfl, hnodup, hkeys, hindex, hlast,
    hsome (List.cons_ne_nil _ _) (by decide) .tail, hg, (hlist (.col "n") rfl g).mp hg, hu, hglists,
    huheads, hlistsOf⟩

end Table
end TimeTable
