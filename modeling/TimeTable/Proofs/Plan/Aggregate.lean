import TimeTable.Proofs.Group.Partition
import TimeTable.Proofs.Plan.Project

/-!
# Aggregations of groups

Groups can be aggregated if and only if the columns are there, every aggregation can be evaluated on the
rows of every group, and the names are distinct. The table has then the keys of each group and for each
aggregation its value on the rows of each group.
-/

namespace TimeTable

variable {t full source out : Table} {keys columns results : List Column} {aggs : List Expr}
  {index : GroupIndex} {e : Expr} {c column : Column} {dtype : DataType} {rows : List Nat}

/-! ### Values of groups -/

/-- The groups on whose rows aggregations are evaluated: those of the index or, if there are none, the
group of no rows. -/
def GroupIndex.samples (index : GroupIndex) : List (List Nat) :=
  if index.groups = [] then [[]] else index.groups

lemma GroupIndex.samples_of_eq_nil (h : index.groups = []) : index.samples = [[]] := if_pos h

lemma GroupIndex.samples_of_ne_nil (h : index.groups ≠ []) : index.samples = index.groups := if_neg h

lemma GroupIndex.forall_samples {P : List Nat → Prop} :
    (∀ rows ∈ index.samples, P rows) ↔
      (∀ rows ∈ index.groups, P rows) ∧ (index.groups = [] → P []) := by
  by_cases h : index.groups = []
  · rw [samples_of_eq_nil h, h]
    simp
  · rw [samples_of_ne_nil h]
    simp [h]

lemma GroupIndex.exists_sample (index : GroupIndex) : ∃ rows, rows ∈ index.samples := by
  by_cases h : index.groups = []
  · rw [samples_of_eq_nil h]
    exact ⟨[], List.mem_cons_self⟩
  · rw [samples_of_ne_nil h]
    exact List.exists_mem_of_ne_nil _ h

namespace Expr

/-- The value of an aggregation on a group: its single value, or else the list of all its values. -/
def HasGroupValue (e : Expr) (group : Table) (v : Scalar) : Prop :=
  ∃ c, e.evaluate group = .ok c ∧ if e.isScalar then c.toScalars = [v] else v = .list c.toScalars

/-- The column that holds for each group the value of an aggregation. Its type is the one that the
aggregation has on any rows, or that of lists of it. -/
structure Aggregates (e : Expr) (full : Table) (index : GroupIndex) (column : Column) : Prop where
  name_eq : column.name = e.outputName
  values : List.Forall₂ (fun rows v => e.HasGroupValue (full.take rows) v) index.groups
    column.toScalars
  type_eq : ∀ rows c, e.evaluate (full.take rows) = .ok c →
    column.dtype = if e.isScalar then c.dtype else .list c.dtype

/-- The cell of a group as a function of the column that an aggregation gave on it. -/
def groupCell (e : Expr) (c : Column) : Scalar :=
  if e.isScalar then c.get 0 else .list c.toScalars

lemma groupValue_eq_ok (h : e.evaluate t = .ok c) : e.groupValue c = .ok (e.groupCell c) := by
  rw [groupValue, groupCell]
  split
  · next hscalar =>
    have hlength := (evaluate_shaped h).length_eq
    rw [if_pos hscalar] at hlength
    rw [if_pos hlength]
  · rfl

lemma hasGroupValue_groupCell (h : e.evaluate t = .ok c) :
    e.HasGroupValue t (e.groupCell c) := by
  refine ⟨c, h, ?_⟩
  rw [groupCell]
  split
  · next hscalar =>
    have hlength := (evaluate_shaped h).length_eq
    rw [if_pos hscalar] at hlength
    exact Column.toScalars_eq_singleton hlength
  · rfl

/-- All columns of an aggregation on rows of a table have one type. -/
lemma dtype_of_evaluate_take (htype : e.type? full.schema = some dtype)
    (h : e.evaluate (full.take rows) = .ok c) : c.dtype = dtype := by
  have hc := (evaluate_shaped h).type_eq
  rw [Table.schema_take, htype] at hc
  exact (Option.some.inj hc).symm

/-! ### Columns of aggregations -/

lemma groupType_eq_ok (hdtype : ∀ c ∈ results, c.dtype = dtype)
    (hempty : results = [] → (e.evaluate (source.take [])).map Column.dtype = .ok dtype) :
    e.groupType results source = .ok dtype := by
  rw [groupType]
  split
  · next c hfind => rw [hdtype c (List.mem_of_find?_eq_some hfind)]
  · next hfind =>
    rw [List.find?_eq_none] at hfind
    cases results with
    | nil => exact hempty rfl
    | cons c cs =>
      have hnull : c.dtype = .null := by simpa using hfind c List.mem_cons_self
      rw [← hdtype c List.mem_cons_self, hnull]
      rfl

/-- The cells of groups go into a column of their type as they are. -/
lemma ofScalars_groupCell (hdtype : ∀ c ∈ results, c.dtype = dtype) :
    ∃ column, Column.ofScalars e.outputName (if e.isScalar then dtype else .list dtype)
        (results.map e.groupCell) = .ok column ∧ column.name = e.outputName ∧
      column.dtype = (if e.isScalar then dtype else .list dtype) ∧
      column.toScalars = results.map e.groupCell := by
  apply Column.ofScalars_of_mem_type
  intro v hv
  obtain ⟨c, hc, rfl⟩ := List.mem_map.mp hv
  rw [groupCell]
  cases e.isScalar with
  | true => exact hdtype c hc ▸ Column.exists_get_eq c 0
  | false => exact ⟨some c.toScalars, rfl⟩

section Assembly

variable (hsource : ∀ rows, e.evaluate (source.take rows) = e.evaluate (full.take rows))
  (hresults : List.Forall₂ (fun rows c => e.evaluate (full.take rows) = .ok c) index.groups results)
include hsource hresults

/-- If an aggregation has a type on the table then its columns on the groups can be assembled, without
a change to any value. -/
lemma exists_assemble (htype : e.type? full.schema = some dtype)
    (hempty : index.groups = [] → ∃ c, e.evaluate (full.take []) = .ok c) :
    ∃ column, e.assemble results source = .ok column ∧ e.Aggregates full index column := by
  have hdtype : ∀ c ∈ results, c.dtype = dtype := by
    intro c hc
    obtain ⟨rows, -, hrows⟩ := exists_mem_of_forall₂_right hresults hc
    exact dtype_of_evaluate_take htype hrows
  have hvalues : results.mapM e.groupValue = .ok (results.map e.groupCell) := by
    rw [mapM_eq_ok_iff, List.forall₂_map_right_iff, List.forall₂_same]
    intro c hc
    obtain ⟨rows, -, hrows⟩ := exists_mem_of_forall₂_right hresults hc
    exact groupValue_eq_ok hrows
  have hinner : e.groupType results source = .ok dtype := by
    -- Without groups the type is that of the aggregation on no rows.
    refine groupType_eq_ok hdtype ?_
    rintro rfl
    obtain ⟨c, hc⟩ := hempty (List.forall₂_nil_right_iff.mp hresults)
    rw [hsource, hc, map_ok, dtype_of_evaluate_take htype hc]
  obtain ⟨column, hcolumn, hname, htarget, hscalars⟩ := ofScalars_groupCell (e := e) hdtype
  refine ⟨column, ?_, hname, ?_, ?_⟩
  · rw [assemble, hvalues, ok_bind, hinner, ok_bind, hcolumn]
  · rw [hscalars, List.forall₂_map_right_iff]
    exact hresults.imp fun rows c h => hasGroupValue_groupCell h
  · intro rows c hc
    rw [htarget, dtype_of_evaluate_take htype hc]

/-- An aggregation that can be evaluated on the samples is assembled. -/
lemma exists_assemble_of_samples
    (h : ∀ rows ∈ index.samples, ∃ c, e.evaluate (full.take rows) = .ok c) :
    ∃ column, e.assemble results source = .ok column ∧ e.Aggregates full index column := by
  obtain ⟨rows, hrows⟩ := index.exists_sample
  obtain ⟨c, hc⟩ := h rows hrows
  have htype := (evaluate_shaped hc).type_eq
  rw [Table.schema_take] at htype
  exact exists_assemble hsource hresults htype (GroupIndex.forall_samples.mp h).2

/-- An aggregation that is assembled can be evaluated on the samples: on no rows for its type if there
are no groups, and on all groups otherwise. -/
lemma exists_evaluate_of_assemble (h : e.assemble results source = .ok column) :
    ∀ rows ∈ index.samples, ∃ c, e.evaluate (full.take rows) = .ok c := by
  refine GroupIndex.forall_samples.mpr ⟨?_, ?_⟩
  · intro rows hrows
    obtain ⟨c, -, hc⟩ := exists_mem_of_forall₂ hresults hrows
    exact ⟨c, hc⟩
  -- Only without groups does the assembly itself evaluate the aggregation, to learn its type.
  · intro hgroups
    rw [hgroups, List.forall₂_nil_left_iff] at hresults
    subst hresults
    obtain ⟨_, -, h⟩ := bind_eq_ok.mp h
    obtain ⟨inner, hinner, -⟩ := bind_eq_ok.mp h
    obtain ⟨c, hc, -⟩ := map_eq_ok.mp hinner
    exact ⟨c, hsource [] ▸ hc⟩

lemma aggregates_of_assemble (h : e.assemble results source = .ok column) :
    e.Aggregates full index column := by
  obtain ⟨column', hcolumn', haggregates⟩ := exists_assemble_of_samples hsource hresults
    (exists_evaluate_of_assemble hsource hresults h)
  obtain rfl := Except.ok.inj (h.symm.trans hcolumn')
  exact haggregates

end Assembly

end Expr

/-! ### Tables of groups -/

/-- The columns that an aggregation gave on the groups are found at its place among those of each
group. -/
lemma forall₂_filterMap_getElem? {R : List Nat → Expr → Column → Prop} {groups : List (List Nat)}
    {perGroup : List (List Column)} {i : Nat} (he : aggs[i]? = some e)
    (h : List.Forall₂ (fun rows results => List.Forall₂ (R rows) aggs results) groups perGroup) :
    List.Forall₂ (fun rows c => R rows e c) groups (perGroup.filterMap (·[i]?)) := by
  induction h with
  | nil => exact .nil
  | cons hresults _ ih =>
    obtain ⟨c, hc, hR⟩ := exists_getElem?_of_forall₂ hresults he
    rw [List.filterMap_cons_some (f := (·[i]?)) hc]
    exact .cons hR ih

namespace Table

variable {perGroup : List (List Column)} (hkeys : ∀ key ∈ keys, key.length = t.height)

/-- The columns of all aggregations on the rows of each group. -/
def evaluateGroups (source : Table) (index : GroupIndex) (aggs : List Expr) :
    Except Fault (List (List Column)) :=
  index.groups.mapM fun rows => aggs.mapM fun e => e.evaluate (source.take rows)

/-- The columns of all aggregations, assembled from those on the rows of each group. -/
def assembleAll (source : Table) (aggs : List Expr) (perGroup : List (List Column)) :
    Except Fault (List Column) :=
  aggs.zipIdx.mapM fun p => p.1.assemble (perGroup.filterMap (·[p.2]?)) source

lemma aggregate_eq_ok_iff : t.aggregate index keys aggs = .ok out ↔
    ∃ source, t.project keys aggs = .ok source ∧
      ∃ perGroup, source.evaluateGroups index aggs = .ok perGroup ∧
        ∃ columns, source.assembleAll aggs perGroup = .ok columns ∧
          out.columns = keys.map (·.take index.firstRows) ++ columns := by
  simp only [aggregate, bind_eq_ok, ofColumns_eq_ok_iff, evaluateGroups, assembleAll]

section Groups

variable (hsource : t.project keys aggs = .ok source)
  (hperGroup : source.evaluateGroups index aggs = .ok perGroup)
include hsource hperGroup

lemma evaluate_groups {i : Nat} (he : aggs[i]? = some e) :
    List.Forall₂ (fun rows c => e.evaluate ((t.withKeys keys hkeys).take rows) = .ok c) index.groups
      (perGroup.filterMap (·[i]?)) := by
  have hgroups := mapM_eq_ok_iff.mp hperGroup
  simp only [mapM_eq_ok_iff] at hgroups
  refine (forall₂_filterMap_getElem? he hgroups).imp ?_
  intro rows c hc
  rw [← evaluate_project hkeys hsource (List.mem_of_getElem? he) rows]
  exact hc

lemma exists_assembleAll_iff :
    (∃ columns, source.assembleAll aggs perGroup = .ok columns) ↔ ∀ e ∈ aggs,
      ∀ rows ∈ index.samples, ∃ c, e.evaluate ((t.withKeys keys hkeys).take rows) = .ok c := by
  rw [assembleAll, exists_mapM_eq_ok_iff]
  constructor
  · intro h e he
    obtain ⟨i, hi⟩ := List.mem_iff_getElem?.mp he
    obtain ⟨column, hcolumn⟩ := h (e, i) (List.mem_zipIdx_iff_getElem?.mpr hi)
    exact Expr.exists_evaluate_of_assemble (evaluate_project hkeys hsource he)
      (evaluate_groups hkeys hsource hperGroup hi) hcolumn
  · intro h p hp
    have hi := List.mem_zipIdx_iff_getElem?.mp hp
    have he := List.mem_of_getElem? hi
    obtain ⟨column, hcolumn, -⟩ := Expr.exists_assemble_of_samples (evaluate_project hkeys hsource he)
      (evaluate_groups hkeys hsource hperGroup hi) (h p.1 he)
    exact ⟨column, hcolumn⟩

lemma aggregates_of_assembleAll (h : source.assembleAll aggs perGroup = .ok columns) :
    List.Forall₂ (fun e column => e.Aggregates (t.withKeys keys hkeys) index column) aggs
      columns := by
  have hcolumns := forall₂_with_mem (mapM_eq_ok_iff.mp h)
  rw [← List.zipIdx_map_fst 0 aggs, List.forall₂_map_left_iff]
  refine hcolumns.imp ?_
  rintro p column ⟨hp, hcolumn⟩
  have hi := List.mem_zipIdx_iff_getElem?.mp hp
  exact Expr.aggregates_of_assemble (evaluate_project hkeys hsource (List.mem_of_getElem? hi))
    (evaluate_groups hkeys hsource hperGroup hi) hcolumn

end Groups

lemma exists_evaluateGroups (hsource : t.project keys aggs = .ok source)
    (h : ∀ e ∈ aggs, ∀ rows ∈ index.samples,
      ∃ c, e.evaluate ((t.withKeys keys hkeys).take rows) = .ok c) :
    ∃ perGroup, source.evaluateGroups index aggs = .ok perGroup := by
  refine exists_mapM_eq_ok_iff.mpr fun rows hrows => exists_mapM_eq_ok_iff.mpr fun e he => ?_
  have hsample : rows ∈ index.samples := by
    rw [GroupIndex.samples_of_ne_nil (List.ne_nil_of_mem hrows)]
    exact hrows
  obtain ⟨c, hc⟩ := h e he rows hsample
  exact ⟨c, (evaluate_project hkeys hsource he rows).trans hc⟩

/-- The keys and aggregations of groups have as many rows as there are groups. -/
lemma length_of_mem_groups (hgroups : ∀ group ∈ index.groups, group ≠ [])
    (hcolumns : List.Forall₂ (fun e column => e.Aggregates full index column) aggs columns)
    (h : c ∈ keys.map (·.take index.firstRows) ++ columns) : c.length = index.groups.length := by
  rcases List.mem_append.mp h with h | h
  · obtain ⟨key, -, rfl⟩ := List.mem_map.mp h
    rw [Column.length_take, GroupIndex.length_firstRows hgroups]
  · obtain ⟨e, -, haggregates⟩ := exists_mem_of_forall₂_right hcolumns h
    rw [← Column.length_toScalars, ← haggregates.values.length_eq]

lemma names_groups
    (hcolumns : List.Forall₂ (fun e column => e.Aggregates full index column) aggs columns) :
    (keys.map (·.take index.firstRows) ++ columns).map Column.name =
      keys.map Column.name ++ aggs.map Expr.outputName := by
  rw [List.map_append, List.map_map, map_eq_of_forall₂ hcolumns fun e column h => h.name_eq]
  rfl

/-- Keys and aggregations with distinct names form a table. -/
lemma exists_ofColumns_groups (hgroups : ∀ group ∈ index.groups, group ≠ [])
    (hcolumns : List.Forall₂ (fun e column => e.Aggregates full index column) aggs columns)
    (hnames : (keys.map Column.name ++ aggs.map Expr.outputName).Nodup) :
    ∃ out, ofColumns (keys.map (·.take index.firstRows) ++ columns) = .ok out := by
  rw [exists_ofColumns_iff]
  constructor
  · intro c hc d hd
    rw [length_of_mem_groups hgroups hcolumns hc, length_of_mem_groups hgroups hcolumns hd]
  · rw [Column.DistinctNames, names_groups hcolumns]
    exact hnames

lemma exists_aggregate_iff (hgroups : ∀ group ∈ index.groups, group ≠ []) :
    (∃ out, t.aggregate index keys aggs = .ok out) ↔
      (∀ e ∈ aggs, ∀ name ∈ e.references, name ∈ t.names ∨ name ∈ keys.map Column.name) ∧
      (∀ e ∈ aggs, ∀ rows ∈ index.samples,
        ∃ c, e.evaluate ((t.withKeys keys hkeys).take rows) = .ok c) ∧
      (keys.map Column.name ++ aggs.map Expr.outputName).Nodup := by
  constructor
  · rintro ⟨out, hout⟩
    obtain ⟨source, hsource, perGroup, hperGroup, columns, hcolumns, hnames⟩ :=
      aggregate_eq_ok_iff.mp hout
    refine ⟨(exists_project_iff hkeys).mp ⟨source, hsource⟩,
      (exists_assembleAll_iff hkeys hsource hperGroup).mp ⟨columns, hcolumns⟩, ?_⟩
    rw [← names_groups (aggregates_of_assembleAll hkeys hsource hperGroup hcolumns), ← hnames]
    exact out.distinctNames
  · rintro ⟨hreferences, hsamples, hnames⟩
    obtain ⟨source, hsource⟩ := (exists_project_iff hkeys).mpr hreferences
    obtain ⟨perGroup, hperGroup⟩ := exists_evaluateGroups hkeys hsource hsamples
    obtain ⟨columns, hcolumns⟩ := (exists_assembleAll_iff hkeys hsource hperGroup).mpr hsamples
    obtain ⟨out, hout⟩ := exists_ofColumns_groups hgroups
      (aggregates_of_assembleAll hkeys hsource hperGroup hcolumns) hnames
    exact ⟨out, aggregate_eq_ok_iff.mpr ⟨source, hsource, perGroup, hperGroup, columns, hcolumns,
      ofColumns_eq_ok_iff.mp hout⟩⟩

lemma columns_of_aggregate (h : t.aggregate index keys aggs = .ok out) :
    ∃ columns, out.columns = keys.map (·.take index.firstRows) ++ columns ∧
      List.Forall₂ (fun e column => e.Aggregates (t.withKeys keys hkeys) index column) aggs
        columns := by
  obtain ⟨source, hsource, perGroup, hperGroup, columns, hcolumns, hout⟩ :=
    aggregate_eq_ok_iff.mp h
  exact ⟨columns, hout, aggregates_of_assembleAll hkeys hsource hperGroup hcolumns⟩

/-- Groups can be aggregated if and only if every column that is referred to is a column of the table or
a key, every aggregation can be evaluated on the rows of every group, seeing all columns and keys, and
the names of the keys and of the aggregations are distinct. The columns are then the keys in the first
row of each group and, for each aggregation, its values on the rows of the groups. -/
theorem aggregate_groupwise {rowHash : Nat → UInt64}
    (hindex : GroupIndex.buildWith rowHash keys t.height = .ok index) (aggs : List Expr) :
    ((∃ out, t.aggregate index keys aggs = .ok out) ↔
      (∀ e ∈ aggs, ∀ name ∈ e.references, name ∈ t.names ∨ name ∈ keys.map Column.name) ∧
      (∀ e ∈ aggs, ∀ rows ∈ index.samples,
        ∃ c, e.evaluate ((t.withKeys keys hkeys).take rows) = .ok c) ∧
      (keys.map Column.name ++ aggs.map Expr.outputName).Nodup) ∧
    ∀ out, t.aggregate index keys aggs = .ok out →
      ∃ columns, out.columns = keys.map (·.take index.firstRows) ++ columns ∧
        List.Forall₂ (fun e column => e.Aggregates (t.withKeys keys hkeys) index column) aggs
          columns :=
  ⟨exists_aggregate_iff hkeys (GroupIndex.ne_nil_of_buildWith hindex),
    fun _ hout => columns_of_aggregate hkeys hout⟩

/-- A sum, a comparison that gives lists and a key under another name, for groups one of which has no
key. -/
theorem aggregate_groupwise_missing_key :
    let keys : List Column := [⟨"k", .utf8, [some "a", none, some "a"]⟩]
    let aggs : List Expr := [.reduce (.col "n") .sum,
      .named (.compare (.col "n") .gt (.lit (.int64 1))) "big", .named (.col "k") "ks"]
    let index : GroupIndex := ⟨[[0, 2], [1]], 3⟩
    ∃ (t : Table) (hkeys : ∀ key ∈ keys, key.length = t.height),
      t.columns = [⟨"n", .int64, [some 1, some 2, some 3]⟩] ∧
        GroupIndex.buildWith (fun _ => 0) keys t.height = .ok index ∧
        (keys.map Column.name ++ aggs.map Expr.outputName).Nodup ∧
        ∃ out columns, t.aggregate index keys aggs = .ok out ∧
          out.columns = keys.map (·.take index.firstRows) ++ columns ∧
          List.Forall₂ (fun e column => e.Aggregates (t.withKeys keys hkeys) index column) aggs
            columns := by
  intro keys aggs index
  let t : Table :=
    { columns := [⟨"n", .int64, [some 1, some 2, some 3]⟩]
      sameHeight := by simp [Column.SameHeight, Column.length]
      distinctNames := by simp [Column.DistinctNames] }
  have hkeys : ∀ key ∈ keys, key.length = t.height := by
    intro key hkey
    rw [List.mem_singleton.mp hkey]
    rfl
  have hindex : GroupIndex.buildWith (fun _ => 0) keys t.height = .ok index :=
    GroupIndex.buildWith_eq_classes (List.cons_ne_nil _ _) hkeys fun _ _ _ _ _ => rfl
  obtain ⟨out, hout⟩ : ∃ out, t.aggregate index keys aggs = .ok out := ⟨_, rfl⟩
  obtain ⟨hiff, hcolumns⟩ := aggregate_groupwise hkeys hindex aggs
  obtain ⟨-, -, hnames⟩ := hiff.mp ⟨out, hout⟩
  obtain ⟨columns, hconcat, haggregates⟩ := hcolumns out hout
  exact ⟨t, hkeys, rfl, hindex, hnames, out, columns, hout, hconcat, haggregates⟩

end Table
end TimeTable
