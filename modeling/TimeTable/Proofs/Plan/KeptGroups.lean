import TimeTable.Proofs.Group.Kept
import TimeTable.Proofs.Plan.Aggregate
import TimeTable.Proofs.Plan.Grouping

/-!
# Aggregating and slicing kept groups

If only some rows of a table are kept, but rows with equal keys together, then the kept rows have the
groups that are kept. What aggregations and slices give for these groups are some rows of what they give
for all groups: those at the places of the rows that are kept among the rows of their keys.
-/

namespace TimeTable

variable {t full full' group g : Table} {keys : List Column} {c column column' : Column}
  {aggs : List Expr} {e : Expr} {v : Scalar} {index index' : GroupIndex} {keep : Nat → Bool}
  {number : Nat → Nat} {kept rows rows' places : List Nat} {slice : GroupSlice} {step : GroupStep} {m : Nat}

/-! ### Aggregations of the groups that are kept -/

namespace Expr

def cellOn (e : Expr) (group : Table) : Scalar :=
  match e.evaluate group with
  | .ok c => e.groupCell c
  | .error _ => .null

lemma HasGroupValue.eq_cellOn (h : e.HasGroupValue group v) : v = e.cellOn group := by
  obtain ⟨c, hc, hv⟩ := h
  rw [cellOn, hc]
  dsimp only
  rw [groupCell]
  split
  · next hscalar =>
    rw [if_pos hscalar] at hv
    have hlength : c.length = 1 := by rw [← Column.length_toScalars, hv, List.length_singleton]
    rw [Column.toScalars_eq_singleton hlength] at hv
    exact (List.singleton_inj.mp hv).symm
  · next hscalar =>
    rw [if_neg hscalar] at hv
    exact hv

namespace Aggregates

lemma toScalars_eq (h : e.Aggregates full index column) :
    column.toScalars = index.groups.map fun rows => e.cellOn (full.take rows) := by
  have hvalues := map_eq_of_forall₂ h.values (g := id) fun rows v hv => hv.eq_cellOn
  rw [List.map_id] at hvalues
  exact hvalues

lemma get_eq (h : e.Aggregates full index column) {i : Nat} (hi : i < index.groups.length) :
    column.get i = e.cellOn (full.take (index.groups.getD i [])) := by
  have hlength : column.length = index.groups.length := by
    rw [← Column.length_toScalars, h.toScalars_eq, List.length_map]
  have hscalars := h.toScalars_eq
  conv_rhs at hscalars => rw [← map_getD_range index.groups []]
  rw [Column.toScalars_eq_map_get, hlength, List.map_map] at hscalars
  exact List.map_inj_left.mp hscalars i (List.mem_range.mpr hi)

/-- Aggregations that can be evaluated alike on some rows have columns of one type. -/
lemma dtype_eq (h : e.Aggregates full index column) (h' : e.Aggregates full' index' column')
    (hc : e.evaluate (full.take rows) = .ok c) (hc' : e.evaluate (full'.take rows') = .ok c) :
    column'.dtype = column.dtype := by
  rw [h.type_eq rows c hc, h'.type_eq rows' c hc']

/-- The column of an aggregation on groups where it has the cells that it has at some places. -/
lemma eq_take_of_cellOn (h : e.Aggregates full index column)
    (h' : e.Aggregates full' index' column') (hdtype : column'.dtype = column.dtype)
    (hplaces : ∀ place ∈ places, place < index.groups.length)
    (hcells : index'.groups.map (fun rows => e.cellOn (full'.take rows)) =
      places.map fun place => e.cellOn (full.take (index.groups.getD place []))) :
    column' = column.take places := by
  apply Column.eq_of_toScalars_eq
  · rw [Column.name_take, h.name_eq, h'.name_eq]
  · rw [Column.dtype_take, hdtype]
  · rw [Column.toScalars_take, h'.toScalars_eq, hcells]
    exact List.map_congr_left fun place hplace => (h.get_eq (hplaces place hplace)).symm

/-- The column of an aggregation on the groups that are kept. -/
lemma eq_take (h : e.Aggregates full index column) (h' : e.Aggregates full' index' column')
    (hkeeps : GroupIndex.Keeps keep number index index') (hgroups : index'.groups ≠ [])
    (heval : ∀ rows ∈ index'.groups,
      e.evaluate (full'.take rows) = e.evaluate (full.take (rows.map number))) :
    column' = column.take (keptPlaces keep 0 index.firstRows) := by
  -- Some group is kept, and the aggregation has one type on all groups.
  obtain ⟨rows, hrows⟩ := List.exists_mem_of_ne_nil _ hgroups
  obtain ⟨v, -, c, hc, -⟩ := exists_mem_of_forall₂ h'.values hrows
  apply h.eq_take_of_cellOn h' (h.dtype_eq h' (heval rows hrows ▸ hc) hc)
  · intro place hplace
    rw [← GroupIndex.length_firstRows hkeeps.nonempty]
    exact lt_of_mem_keptPlaces hplace
  · have hcell : ∀ rows ∈ index'.groups,
        e.cellOn (full'.take rows) = e.cellOn (full.take (rows.map number)) := by
      intro rows hrows
      rw [cellOn, cellOn, heval rows hrows]
    have hcells := congrArg (List.map fun rows => e.cellOn (full.take rows)) hkeeps.map_groups_eq
    rw [List.map_map, List.map_map] at hcells
    rw [List.map_congr_left hcell]
    exact hcells

end Aggregates
end Expr

/-! ### Groups of the rows that are kept -/

/-- The index of keys on the rows that are kept. -/
def GroupIndex.ofKept (keys : List Column) (kept : List Nat) : GroupIndex :=
  ofKeys (keys.map (·.take kept)) kept.length

lemma GroupIndex.classifies_ofKept (keys : List Column) (kept : List Nat) :
    (ofKept keys kept).Classifies fun a b => Column.sameRow (keys.map (·.take kept)) a b = true :=
  classifies_ofKeys _ _

/-- The rows whose keys are those of the table that is made of groups. -/
def GroupStep.keyRows (step : GroupStep) (index : GroupIndex) : List Nat :=
  match step with
  | .agg _ => index.firstRows
  | .slice s m => s.selectRows index m

namespace Table

/-- A table made of groups has the keys of some of the rows. -/
lemma take_keyRows_mem_columns (hlength : ∀ key ∈ keys, key.length = t.height)
    (h : t.groupStep keys step = .ok g) (hc : c ∈ keys) :
    c.take (step.keyRows (.ofKeys keys t.height)) ∈ g.columns := by
  cases step with
  | agg aggs =>
    obtain ⟨columns, hcolumns, -⟩ := columns_of_aggregate hlength h
    rw [hcolumns]
    exact List.mem_append_left _ (List.mem_map_of_mem hc)
  | slice slice m =>
    rw [groupStep, sliceGroups, ofColumns_eq_ok_iff] at h
    rw [h]
    exact List.mem_map_of_mem (List.mem_append_left _ hc)

lemma height_groupStep (hlength : ∀ key ∈ keys, key.length = t.height) (hne : keys ≠ [])
    (h : t.groupStep keys step = .ok g) :
    g.height = (step.keyRows (.ofKeys keys t.height)).length := by
  obtain ⟨key, hkey⟩ := List.exists_mem_of_ne_nil _ hne
  rw [← length_of_mem (take_keyRows_mem_columns hlength h hkey), Column.length_take]

/-- On kept rows aggregations see what they see on these rows of the table and its keys. -/
lemma column?_withKeys_take (hkeys : ∀ key ∈ keys, key.length = t.height)
    (hkept : ∀ key ∈ keys.map (·.take kept), key.length = (t.take kept).height) (name : String) :
    ((t.take kept).withKeys (keys.map (·.take kept)) hkept).column? name =
      ((t.withKeys keys hkeys).take kept).column? name := by
  rw [column?_withKeys, column?_take, column?_take, column?_withKeys, List.find?_map, Option.map_or]
  rfl

lemma evaluate_withKeys_take (hkeys : ∀ key ∈ keys, key.length = t.height)
    (hkept : ∀ key ∈ keys.map (·.take kept), key.length = (t.take kept).height)
    (hrows : ∀ i ∈ rows, i < kept.length) :
    e.evaluate (((t.take kept).withKeys (keys.map (·.take kept)) hkept).take rows) =
      e.evaluate ((t.withKeys keys hkeys).take (rows.map (kept.getD · 0))) := by
  have hnumber : ∀ i ∈ rows, kept[i]? = some (kept.getD i 0) := fun i hi =>
    getElem?_eq_some_getD (hrows i hi) 0
  rw [← take_take hnumber]
  exact Expr.evaluate_take_congr (fun name _ => column?_withKeys_take hkeys hkept name) rows

lemma evaluate_kept (hkeys : ∀ key ∈ keys, key.length = t.height)
    (hkept : ∀ key ∈ keys.map (·.take kept), key.length = (t.take kept).height)
    (hrows : rows ∈ (GroupIndex.ofKept keys kept).groups) :
    e.evaluate (((t.take kept).withKeys (keys.map (·.take kept)) hkept).take rows) =
      e.evaluate ((t.withKeys keys hkeys).take (rows.map (kept.getD · 0))) :=
  evaluate_withKeys_take hkeys hkept fun _ =>
    (GroupIndex.classifies_ofKept keys kept).lt_of_mem hrows

end Table

/-- Rows of kept rows, by the rows among which their places are those of kept rows. -/
lemma Column.take_keptPlaces {places : List Nat} (hplaces : ∀ i ∈ places, i < kept.length)
    (h : places.map (kept.getD · 0) = rows.filter keep) :
    (c.take rows).take (keptPlaces keep 0 rows) = (c.take kept).take places := by
  have hrows : ∀ i ∈ keptPlaces keep 0 rows, rows[i]? = some (rows.getD i 0) := fun i hi =>
    getElem?_eq_some_getD (lt_of_mem_keptPlaces hi) 0
  have hkept : ∀ i ∈ places, kept[i]? = some (kept.getD i 0) := fun i hi =>
    getElem?_eq_some_getD (hplaces i hi) 0
  rw [take_take hrows, take_take hkept, map_getD_keptPlaces, h]

namespace Table

section Kept

variable (hkept : kept = (List.range t.height).filter keep)
  (hkeep : ∀ a < t.height, ∀ b < t.height, Column.sameRow keys a b = true → keep a = keep b)
include hkept hkeep

lemma keeps_ofKeys :
    GroupIndex.Keeps keep (kept.getD · 0) (.ofKeys keys t.height) (.ofKept keys kept) :=
  GroupIndex.keeps_classes hkept (Column.sameRow_equivalence _) (Column.sameRow_equivalence _) hkeep
    fun _ ha _ hb => Column.sameRow_take ha hb

lemma sliceGroups_kept (h : t.sliceGroups (.ofKeys keys t.height) keys slice m = .ok g) :
    (t.take kept).sliceGroups (.ofKept keys kept) (keys.map (·.take kept)) slice m =
      .ok (g.take (keptPlaces keep 0 (slice.selectRows (.ofKeys keys t.height) m))) := by
  rw [sliceGroups, ofColumns_eq_ok_iff] at h ⊢
  -- The columns beside the keys are the same ones, on the rows that are kept.
  have hothers : (t.take kept).columns.filter (fun c =>
      (keys.map (·.take kept)).all fun key => key.name != c.name) =
        (t.columns.filter fun c => keys.all fun key => key.name != c.name).map (·.take kept) := by
    rw [columns_take, List.filter_map]
    simp only [List.all_map]
    rfl
  rw [hothers, columns_take, h, ← List.map_append, List.map_map, List.map_map]
  refine List.map_congr_left fun c _ => Column.take_keptPlaces ?_ ?_
  · intro i hi
    exact (GroupIndex.classifies_ofKept keys kept).lt_of_mem_selectRows hi
  · exact (keeps_ofKeys hkept hkeep).map_selectRows slice m

section Aggregate

variable (hlength : ∀ key ∈ keys, key.length = t.height)
  (hlength' : ∀ key ∈ keys.map (·.take kept), key.length = (t.take kept).height)
include hlength hlength'

lemma exists_aggregate_kept
    (hgroups : (GroupIndex.ofKept keys kept).groups ≠ [])
    (h : t.aggregate (.ofKeys keys t.height) keys aggs = .ok g) :
    ∃ u, (t.take kept).aggregate (.ofKept keys kept) (keys.map (·.take kept)) aggs = .ok u := by
  obtain ⟨hreferences, hsamples, hnames⟩ :=
    (exists_aggregate_iff hlength (GroupIndex.classifies_ofKeys _ _).nonempty).mp ⟨g, h⟩
  rw [exists_aggregate_iff hlength' (GroupIndex.classifies_ofKept keys kept).nonempty, names_take,
    Column.map_name_take]
  refine ⟨hreferences, ?_, hnames⟩
  intro e he
  refine GroupIndex.forall_samples.mpr ⟨?_, fun hnil => absurd hnil hgroups⟩
  intro rows hrows
  -- Under the numbers that its rows had before, a group of kept rows is one of the groups.
  have hgroup := List.mem_map_of_mem (f := List.map (kept.getD · 0)) hrows
  rw [(keeps_ofKeys hkept hkeep).map_groups] at hgroup
  rw [evaluate_kept hlength hlength' hrows]
  exact (GroupIndex.forall_samples.mp (hsamples e he)).1 _ (List.mem_of_mem_filter hgroup)

lemma aggregate_kept (hne : keptPlaces keep 0 (GroupIndex.ofKeys keys t.height).firstRows ≠ [])
    (h : t.aggregate (.ofKeys keys t.height) keys aggs = .ok g) :
    (t.take kept).aggregate (.ofKept keys kept) (keys.map (·.take kept)) aggs =
      .ok (g.take (keptPlaces keep 0 (GroupIndex.ofKeys keys t.height).firstRows)) := by
  have hkeeps := keeps_ofKeys hkept hkeep
  -- A place is kept, so that a group of kept rows exists for the aggregations to be evaluated on.
  have hgroups : (GroupIndex.ofKept keys kept).groups ≠ [] := by
    intro hnil
    have hplaces := hkeeps.map_groups_eq
    rw [hnil, List.map_nil] at hplaces
    exact hne (List.map_eq_nil_iff.mp hplaces.symm)
  obtain ⟨u, hu⟩ := exists_aggregate_kept hkept hkeep hlength hlength' hgroups h
  obtain ⟨columns, hcolumns, haggregates⟩ := columns_of_aggregate hlength h
  obtain ⟨columns', hcolumns', haggregates'⟩ := columns_of_aggregate hlength' hu
  -- Each aggregation has on a group of kept rows the cell that it had on the same group before.
  have hkeptColumns : columns' =
      columns.map (·.take (keptPlaces keep 0 (GroupIndex.ofKeys keys t.height).firstRows)) :=
    eq_map_of_forall₂ haggregates haggregates' fun e column column' hcolumn hcolumn' =>
      hcolumn.eq_take hcolumn' hkeeps hgroups fun rows hrows =>
        evaluate_kept hlength hlength' hrows
  rw [hu]
  refine congrArg Except.ok (eq_of_columns_eq ?_)
  rw [hcolumns', columns_take, hcolumns, List.map_append, hkeptColumns, List.map_map, List.map_map]
  refine congrArg (· ++ _) (List.map_congr_left fun key _ => ?_)
  -- What remains are the keys, and the first row of a kept group is its first kept row.
  refine (Column.take_keptPlaces ?_ hkeeps.map_firstRows).symm
  intro i hi
  rw [← GroupSlice.selectRows_head_one] at hi
  exact (GroupIndex.classifies_ofKept keys kept).lt_of_mem_selectRows hi

end Aggregate

lemma groupStep_kept (hlength : ∀ key ∈ keys, key.length = t.height)
    (hheight : (t.take kept).height = kept.length)
    (hne : keptPlaces keep 0 (step.keyRows (.ofKeys keys t.height)) ≠ [])
    (h : t.groupStep keys step = .ok g) :
    (t.take kept).groupStep (keys.map (·.take kept)) step =
      .ok (g.take (keptPlaces keep 0 (step.keyRows (.ofKeys keys t.height)))) := by
  cases step with
  | agg aggs =>
    have hlength' : ∀ key ∈ keys.map (·.take kept), key.length = (t.take kept).height := by
      rw [List.forall_mem_map, hheight]
      exact fun key _ => Column.length_take key kept
    rw [groupStep, hheight]
    exact aggregate_kept hkept hkeep hlength hlength' hne h
  | slice slice m =>
    rw [groupStep, hheight]
    exact sliceGroups_kept hkept hkeep h

end Kept

end Table
end TimeTable
