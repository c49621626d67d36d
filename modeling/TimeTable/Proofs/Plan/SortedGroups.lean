import TimeTable.Proofs.Expr.Unordered
import TimeTable.Proofs.Plan.KeptGroups
import TimeTable.Proofs.Table.Sorting

/-!
# Sorting groups of reordered rows

If the rows of a table are put into another order then the groups come in another order, and so do the
rows of each group. Aggregations that ignore the order of rows give the same cells for each group, so
that the table of the groups has the same rows in another order. No two groups have the same keys, so
sorting by the keys leaves no trace of the order.
-/

namespace TimeTable

variable {t g out : Table} {keys : List Column} {c : Column} {exprs aggs : List Expr} {key e : Expr}
  {rows places : List Nat} {descending : Bool}

namespace Table

/-! ### Groups of reordered rows -/

section Reordered

variable (hrows : rows.Perm (List.range t.height))
include hrows

/-- The column of a key on rows in another order. -/
lemma keyColumn_take (hkey : key.isRowwise) (h : t.keyColumn key = .ok c) :
    (t.take rows).keyColumn key = .ok (c.take rows) := by
  obtain ⟨d, hd, rfl⟩ := map_eq_ok.mp h
  have hlength := (Expr.evaluate_shaped hd).length_eq
  rw [keyColumn, Expr.evaluate_onRows hkey (fun _ => lt_of_mem_of_perm hrows) hd, map_ok,
    height_take_of_perm hrows]
  cases hscalar : key.isScalar with
  | true =>
    -- The single row is repeated, so that any order of the rows is the same.
    rw [hscalar, if_pos rfl] at hlength
    have hrepeated : ∀ i ∈ rows, (List.replicate t.height 0)[i]? = some 0 := fun i hi =>
      List.getElem?_replicate_of_lt (lt_of_mem_of_perm hrows hi)
    rw [Column.onRows_true, Column.broadcast_eq_take hlength, Column.take_take hrepeated,
      List.map_const', hrows.length_eq, List.length_range]
  | false =>
    rw [hscalar, if_neg Bool.false_ne_true] at hlength
    have htake : (d.take rows).length = t.height := by
      rw [Column.length_take_of_perm (hlength ▸ hrows), hlength]
    rw [Column.onRows_false, Column.broadcast_of_length_eq hlength,
      Column.broadcast_of_length_eq htake]

lemma exists_reorders_ofKept (keys : List Column) :
    ∃ places, GroupIndex.Reorders places (rows.getD · 0) (.ofKeys keys t.height)
      (.ofKept keys rows) :=
  GroupIndex.exists_reorders_classes hrows (Column.sameRow_equivalence _)
    (Column.sameRow_equivalence _) fun _ ha _ hb => Column.sameRow_take ha hb

end Reordered

/-! ### Aggregations of reordered groups -/

section Aggregate

variable (hlength : ∀ key ∈ keys, key.length = t.height)
  (hlength' : ∀ key ∈ keys.map (·.take rows), key.length = (t.take rows).height)

/-- An expression that ignores the order of rows has on a group the column that it had on the group
before. -/
lemma evaluate_reordered (he : e.ignoresOrder) {group : List Nat} {place : Nat}
    (hgroup : group ∈ (GroupIndex.ofKept keys rows).groups)
    (hplace : place < (GroupIndex.ofKeys keys t.height).groups.length)
    (hperm : (group.map (rows.getD · 0)).Perm ((GroupIndex.ofKeys keys t.height).groups.getD place []))
    (hc : e.evaluate ((t.withKeys keys hlength).take
      ((GroupIndex.ofKeys keys t.height).groups.getD place [])) = .ok c) :
    e.evaluate (((t.take rows).withKeys (keys.map (·.take rows)) hlength').take group) = .ok c := by
  rw [evaluate_kept hlength hlength' hgroup]
  refine Expr.evaluate_take_perm he ?_ hperm hc
  intro row hrow
  have hlt := (GroupIndex.classifies_ofKeys keys t.height).lt_of_mem (getD_mem hplace []) hrow
  rwa [height_withKeys hlength hlt]

variable (h : GroupIndex.Reorders places (rows.getD · 0) (.ofKeys keys t.height) (.ofKept keys rows))
include h

/-- The keys of the groups are those of the table in another order. -/
lemma take_firstRows (hc : c ∈ keys) : (c.take rows).take (GroupIndex.ofKept keys rows).firstRows =
    (c.take (GroupIndex.ofKeys keys t.height).firstRows).take places := by
  have hindex := GroupIndex.classifies_ofKeys keys t.height
  have hindex' := GroupIndex.classifies_ofKept keys rows
  have hfirst : ∀ i ∈ (GroupIndex.ofKept keys rows).firstRows, rows[i]? = some (rows.getD i 0) := by
    intro i hi
    rw [← GroupSlice.selectRows_head_one] at hi
    exact getElem?_eq_some_getD (hindex'.lt_of_mem_selectRows hi) 0
  have hplace : ∀ place ∈ places, (GroupIndex.ofKeys keys t.height).firstRows[place]? =
      some ((GroupIndex.ofKeys keys t.height).firstRows.getD place 0) := by
    intro place hplace
    apply getElem?_eq_some_getD
    rw [GroupIndex.length_firstRows hindex.nonempty]
    exact List.mem_range.mp (h.places_perm.subset hplace)
  -- At a place of the new order stands the first row of a group with the same keys.
  have hcells := map_eq_of_forall₂ (h.forall₂_firstRows hindex hindex'.nonempty)
    fun row place hsame => Column.cell_eq_of_get_eq (Column.sameRow_iff.mp hsame c hc).symm
  rw [Column.take_take hfirst, Column.take_take hplace, Column.take_eq, Column.take_eq, List.map_map,
    List.map_map]
  exact congrArg _ hcells.symm

include hlength hlength'

/-- On each sample the expression has a column that it had on a sample before. -/
lemma exists_evaluate_sample (he : e.ignoresOrder)
    (hsamples : ∀ group ∈ (GroupIndex.ofKeys keys t.height).samples,
      ∃ c, e.evaluate ((t.withKeys keys hlength).take group) = .ok c) :
    ∀ group ∈ (GroupIndex.ofKept keys rows).samples, ∃ group' c,
      e.evaluate ((t.withKeys keys hlength).take group') = .ok c ∧
        e.evaluate (((t.take rows).withKeys (keys.map (·.take rows)) hlength').take group) =
          .ok c := by
  rw [GroupIndex.forall_samples] at hsamples
  refine GroupIndex.forall_samples.mpr ⟨?_, ?_⟩
  · intro group hgroup
    obtain ⟨place, -, hplace, hperm⟩ := exists_mem_of_forall₂ h.groups_perm hgroup
    obtain ⟨c, hc⟩ := hsamples.1 _ (getD_mem hplace [])
    exact ⟨_, c, hc, evaluate_reordered hlength hlength' he hgroup hplace hperm hc⟩
  · intro hnil
    have hgroups : (GroupIndex.ofKeys keys t.height).groups = [] := by
      rw [← List.length_eq_zero_iff, ← h.length_groups, hnil, List.length_nil]
    obtain ⟨c, hc⟩ := hsamples.2 hgroups
    refine ⟨[], c, hc, ?_⟩
    rw [evaluate_withKeys_take hlength hlength' (by simp)]
    exact hc

/-- The column of an aggregation of the groups of reordered rows. -/
lemma eq_take_of_reorders {column column' : Column} (he : e.ignoresOrder)
    (hsamples : ∀ group ∈ (GroupIndex.ofKeys keys t.height).samples,
      ∃ c, e.evaluate ((t.withKeys keys hlength).take group) = .ok c)
    (hcolumn : e.Aggregates (t.withKeys keys hlength) (.ofKeys keys t.height) column)
    (hcolumn' : e.Aggregates ((t.take rows).withKeys (keys.map (·.take rows)) hlength')
      (.ofKept keys rows) column') : column' = column.take places := by
  obtain ⟨group, hgroup⟩ := (GroupIndex.ofKept keys rows).exists_sample
  obtain ⟨group', c, hc, hc'⟩ :=
    exists_evaluate_sample hlength hlength' h he hsamples group hgroup
  refine hcolumn.eq_take_of_cellOn hcolumn' (hcolumn.dtype_eq hcolumn' hc hc') ?_ ?_
  · exact fun place hplace => List.mem_range.mp (h.places_perm.subset hplace)
  · refine (map_eq_of_forall₂ (forall₂_with_mem h.groups_perm) ?_).symm
    rintro group place ⟨hgroup, hplace, hperm⟩
    obtain ⟨c, hc⟩ := (GroupIndex.forall_samples.mp hsamples).1 _ (getD_mem hplace [])
    have hc' := evaluate_reordered hlength hlength' he hgroup hplace hperm hc
    simp only [Expr.cellOn, hc, hc']

lemma aggregate_reordered (haggs : ∀ e ∈ aggs, e.ignoresOrder)
    (hg : t.aggregate (.ofKeys keys t.height) keys aggs = .ok g) :
    (t.take rows).aggregate (.ofKept keys rows) (keys.map (·.take rows)) aggs =
      .ok (g.take places) := by
  obtain ⟨hreferences, hsamples, hnames⟩ :=
    (exists_aggregate_iff hlength (GroupIndex.classifies_ofKeys _ _).nonempty).mp ⟨g, hg⟩
  obtain ⟨u, hu⟩ : ∃ u, (t.take rows).aggregate (.ofKept keys rows) (keys.map (·.take rows)) aggs =
      .ok u := by
    -- An aggregation that ignores the order evaluates on a group of reordered rows as on the group itself.
    rw [exists_aggregate_iff hlength' (GroupIndex.classifies_ofKept keys rows).nonempty, names_take,
      Column.map_name_take]
    refine ⟨hreferences, fun e he group hgroup => ?_, hnames⟩
    obtain ⟨-, c, -, hc⟩ :=
      exists_evaluate_sample hlength hlength' h (haggs e he) (hsamples e he) group hgroup
    exact ⟨c, hc⟩
  obtain ⟨columns, hcolumns, haggregates⟩ := columns_of_aggregate hlength hg
  obtain ⟨columns', hcolumns', haggregates'⟩ := columns_of_aggregate hlength' hu
  -- The aggregations stand in one order on both sides, and each has its column in the other order.
  have htake : columns' = columns.map (·.take places) := by
    refine eq_map_of_forall₂ (forall₂_with_mem haggregates) haggregates' ?_
    rintro e column column' ⟨he, hcolumn⟩ hcolumn'
    exact eq_take_of_reorders hlength hlength' h (haggs e he) (hsamples e he) hcolumn hcolumn'
  rw [hu]
  refine congrArg Except.ok (eq_of_columns_eq ?_)
  rw [hcolumns', columns_take, hcolumns, List.map_append, htake, List.map_map, List.map_map]
  exact congrArg (· ++ _) (List.map_congr_left fun key hkey => take_firstRows h hkey)

end Aggregate

/-! ### Sorting by the keys -/

/-- Groups with equal keys are one group. -/
lemma eq_of_get_firstRows {a b n : Nat} (ha : a < (GroupIndex.ofKeys keys n).groups.length)
    (hb : b < (GroupIndex.ofKeys keys n).groups.length)
    (h : ∀ key ∈ keys, (key.take (GroupIndex.ofKeys keys n).firstRows).get a =
      (key.take (GroupIndex.ofKeys keys n).firstRows).get b) : a = b := by
  have hindex := GroupIndex.classifies_ofKeys keys n
  rw [← GroupIndex.length_firstRows hindex.nonempty] at ha hb
  -- Groups are in order of their first rows, which are distinct and no two of which have the same keys.
  have hfirst : (GroupIndex.ofKeys keys n).firstRows = GroupIndex.firsts (Column.sameRow keys) n :=
    GroupIndex.firstRows_classes (Column.sameRow_equivalence keys)
  have hnodup : (GroupIndex.ofKeys keys n).firstRows.Nodup :=
    hindex.firstRows_ascending.imp Nat.ne_of_lt
  have hmema := getD_mem ha 0
  have hmemb := getD_mem hb 0
  simp only [Column.get_take (getElem?_eq_some_getD ha 0),
    Column.get_take (getElem?_eq_some_getD hb 0)] at h
  have hsame : (GroupIndex.ofKeys keys n).firstRows.getD a 0 =
      (GroupIndex.ofKeys keys n).firstRows.getD b 0 := by
    rw [hfirst] at hmema hmemb h ⊢
    exact GroupIndex.first_unique (Column.sameRow_equivalence keys) hmema hmemb
      (Column.sameRow_iff.mpr h)
  rw [List.getD_eq_getElem _ _ ha, List.getD_eq_getElem _ _ hb] at hsame
  exact hnodup.getElem_inj_iff.mp hsame

/-- Grouping reordered rows and sorting the groups by their keys gives what the rows gave before. -/
lemma exists_groupBy_sort_of_perm (hrows : rows.Perm (List.range t.height))
    (hkeys : ∀ key ∈ exprs, key.isRowwise)
    (hlists : ∀ key ∈ exprs, ∀ c, key.evaluate t = .ok c → c.dtype.isList = false)
    (haggs : ∀ e ∈ aggs, e.ignoresOrder) (hg : t.groupBy exprs (.agg aggs) = .ok g)
    (hout : g.sort (exprs.map Expr.outputName) descending = .ok out) :
    ∃ u, (t.take rows).groupBy exprs (.agg aggs) = .ok u ∧
      u.sort (exprs.map Expr.outputName) descending = .ok out := by
  obtain ⟨keys, hcolumns, hne, hstep⟩ := groupBy_eq_ok_iff.mp hg
  have hlength := length_of_keyColumns hcolumns
  have hnoLists : ∀ c ∈ keys, c.dtype.isList = false := by
    intro c hc
    obtain ⟨key, hkey, hcolumn⟩ := exists_mem_of_forall₂_right hcolumns hc
    obtain ⟨d, hd, rfl⟩ := map_eq_ok.mp hcolumn
    rw [Column.dtype_broadcast]
    exact hlists key hkey d hd
  have hheight : (t.take rows).height = rows.length :=
    height_take_of_lt fun _ => lt_of_mem_of_perm hrows
  have hlength' : ∀ c ∈ keys.map (·.take rows), c.length = (t.take rows).height := by
    rw [List.forall_mem_map, hheight]
    exact fun c _ => Column.length_take c rows
  obtain ⟨places, hplaces⟩ := exists_reorders_ofKept hrows keys
  -- The groups of the reordered rows give the rows of the table of groups in another order.
  refine ⟨g.take places, groupBy_eq_ok_iff.mpr ⟨keys.map (·.take rows), ?_, ?_, ?_⟩, ?_⟩
  · rw [List.forall₂_map_right_iff]
    exact (forall₂_with_mem hcolumns).imp fun key c h => keyColumn_take hrows (hkeys key h.1) h.2
  · exact fun hnil => hne (List.map_eq_nil_iff.mp hnil)
  · rw [groupStep, hheight]
    exact aggregate_reordered hlength hlength' hplaces haggs hstep
  · have hmem : ∀ c ∈ keys.map (·.take (GroupIndex.ofKeys keys t.height).firstRows),
        c ∈ g.columns :=
      List.forall_mem_map.mpr fun c hc => take_keyRows_mem_columns hlength hstep hc
    have hnames : exprs.map Expr.outputName =
        (keys.map (·.take (GroupIndex.ofKeys keys t.height).firstRows)).map Column.name := by
      rw [Column.map_name_take, map_eq_of_forall₂ hcolumns fun key c h => (keyColumn_shaped h).1]
    have hgheight : g.height = (GroupIndex.ofKeys keys t.height).groups.length := by
      rw [height_groupStep hlength hne hstep]
      exact GroupIndex.length_firstRows (GroupIndex.classifies_ofKeys keys t.height).nonempty
    rw [hnames] at hout ⊢
    refine (sort_take_of_perm (hgheight ▸ hplaces.places_perm) (mapM_column_map_name hmem) ?_).mpr
      hout
    -- Sorted by their keys, no two groups are tied.
    intro a ha b hb htied
    rw [hgheight] at ha hb
    have hlists : ∀ c ∈ keys.map (·.take (GroupIndex.ofKeys keys t.height).firstRows),
        c.dtype.isList = false :=
      List.forall_mem_map.mpr hnoLists
    exact eq_of_get_firstRows ha hb (List.forall_mem_map.mp (get_eq_of_compareByKeys hlists htied))

end Table

namespace Plan

/-- Aggregations that ignore the order of rows, for groups that are sorted by their keys, do not depend
on the order of the rows of the table: on rows in another order the same table is given, if any. The keys
are worked out row by row and are no lists. -/
theorem sort_groupBy_perm (hrows : rows.Perm (List.range t.height))
    (hkeys : ∀ key ∈ exprs, key.isRowwise)
    (hlists : ∀ key ∈ exprs, ∀ c, key.evaluate t = .ok c → c.dtype.isList = false)
    (haggs : ∀ e ∈ aggs, e.ignoresOrder) (descending : Bool) (out : Table) :
    (Plan.sort (.groupBy (.scan (t.take rows)) exprs (.agg aggs)) (exprs.map Expr.outputName)
        descending).run = .ok out ↔
      (Plan.sort (.groupBy (.scan t) exprs (.agg aggs)) (exprs.map Expr.outputName)
        descending).run = .ok out := by
  have hrun : ∀ u : Table, (Plan.sort (.groupBy (.scan u) exprs (.agg aggs))
      (exprs.map Expr.outputName) descending).run = .ok out ↔
        ∃ g, u.groupBy exprs (.agg aggs) = .ok g ∧
          g.sort (exprs.map Expr.outputName) descending = .ok out := by
    intro u
    rw [run_sort_eq_ok_iff]
    have hgroup : (Plan.groupBy (.scan u) exprs (.agg aggs)).run = u.groupBy exprs (.agg aggs) :=
      run_groupBy_scan rfl
    rw [hgroup]
  rw [hrun, hrun]
  constructor
  · rintro ⟨g, hg, hout⟩
    -- The rows are put back, and the keys have on them the types that they have on the reordered rows.
    obtain ⟨places, hplaces, hback⟩ := Table.exists_take_eq_of_perm hrows
    rw [← hback]
    refine Table.exists_groupBy_sort_of_perm hplaces hkeys ?_ haggs hg hout
    intro key hkey c hc
    obtain ⟨d, hd, rfl⟩ := Expr.exists_evaluate_of_perm (hkeys key hkey) hrows hc
    rw [Column.dtype_onRows]
    exact hlists key hkey d hd
  · rintro ⟨g, hg, hout⟩
    exact Table.exists_groupBy_sort_of_perm hrows hkeys hlists haggs hg hout

/-- Both zeros and a missing value are keys of groups of their own, and stand in one order. -/
theorem sort_groupBy_perm_zeros :
    let exprs : List Expr := [.col "k"]
    let aggs : List Expr := [.reduce (.col "n") .min, .named (.reduce (.col "n") .count) "values"]
    ∃ t out : Table, t.columns =
        [⟨"k", .float64, [some ⟨0⟩, some ⟨0x8000000000000000⟩, none, some ⟨0⟩]⟩,
          ⟨"n", .int64, [some 3, none, some 1, some 2]⟩] ∧
      List.Perm [3, 2, 0, 1] (List.range t.height) ∧
      (∀ key ∈ exprs, key.isRowwise) ∧
      (∀ key ∈ exprs, ∀ c, key.evaluate t = .ok c → c.dtype.isList = false) ∧
      (∀ e ∈ aggs, e.ignoresOrder) ∧
      out.columns = [⟨"k", .float64, [some ⟨0x8000000000000000⟩, some ⟨0⟩, none]⟩,
        ⟨"n", .int64, [none, some 2, some 1]⟩, ⟨"values", .int64, [some 0, some 2, some 1]⟩] ∧
      (Plan.sort (.groupBy (.scan t) exprs (.agg aggs)) (exprs.map Expr.outputName) false).run =
        .ok out ∧
      (Plan.sort (.groupBy (.scan (t.take [3, 2, 0, 1])) exprs (.agg aggs))
        (exprs.map Expr.outputName) false).run = .ok out := by
  intro exprs aggs
  let t : Table :=
    { columns := [⟨"k", .float64, [some ⟨0⟩, some ⟨0x8000000000000000⟩, none, some ⟨0⟩]⟩,
        ⟨"n", .int64, [some 3, none, some 1, some 2]⟩]
      sameHeight := by simp [Column.SameHeight, Column.length]
      distinctNames := by simp [Column.DistinctNames] }
  let g : Table :=
    { columns := [⟨"k", .float64, [some ⟨0⟩, some ⟨0x8000000000000000⟩, none]⟩,
        ⟨"n", .int64, [some 2, none, some 1]⟩, ⟨"values", .int64, [some 2, some 0, some 1]⟩]
      sameHeight := by simp [Column.SameHeight, Column.length]
      distinctNames := by simp [Column.DistinctNames] }
  have hrows : List.Perm [3, 2, 0, 1] (List.range t.height) := by decide
  have hkeys : ∀ key ∈ exprs, key.isRowwise := List.forall_mem_singleton.mpr rfl
  have hlists : ∀ key ∈ exprs, ∀ c, key.evaluate t = .ok c → c.dtype.isList = false := by
    refine List.forall_mem_singleton.mpr fun c hc => ?_
    obtain rfl := Except.ok.inj hc
    rfl
  have haggs : ∀ e ∈ aggs, e.ignoresOrder := by decide
  have hg : (Plan.groupBy (.scan t) exprs (.agg aggs)).run = .ok g :=
    run_groupBy_eq_ok_iff.mpr ⟨_, rfl, t, rfl, Table.groupBy_eq_ok_iff.mpr
      ⟨_, .cons rfl .nil, List.cons_ne_nil _ _, rfl⟩⟩
  have hsorted : sortRows (Table.compareByKeys
      [⟨"k", .float64, [some ⟨0⟩, some ⟨0x8000000000000000⟩, none]⟩] false) [0, 1, 2] = [1, 0, 2] :=
    (sortRows_eq_iff (by decide)).mpr ⟨by decide, by decide⟩
  have hout : (Plan.sort (.groupBy (.scan t) exprs (.agg aggs)) (exprs.map Expr.outputName)
      false).run = .ok (g.take [1, 0, 2]) := by
    refine run_sort_eq_ok_iff.mpr ⟨g, hg, Table.sort_eq_ok_iff.mpr ⟨_, rfl, ?_⟩⟩
    exact congrArg g.take hsorted.symm
  exact ⟨t, g.take [1, 0, 2], rfl, hrows, hkeys, hlists, haggs, rfl, hout,
    (sort_groupBy_perm hrows hkeys hlists haggs false _).mpr hout⟩

end Plan
end TimeTable
