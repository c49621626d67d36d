import TimeTable.Proofs.Group.Resliced
import TimeTable.Proofs.Plan.KeptGroups

/-!
# Slicing sliced groups

The first or last rows of groups are grouped again by the same columns. The groups are what was left of
the groups before, in the same order, with the columns in the same order. So two slices in a row are one
slice: the shorter of two at the same end, and the first of two if it is not the longer one.
-/

namespace TimeTable

variable {t u : Table} {keys : List Column} {c : Column} {names : List String} {index : GroupIndex}
  {slice slice' slice'' : GroupSlice} {j k m : Nat}

namespace Table

/-- The columns of a table that have not the name of a key. -/
def others (t : Table) (keys : List Column) : List Column :=
  t.columns.filter fun c => keys.all fun key => key.name != c.name

lemma mem_others : c ∈ t.others keys ↔ c ∈ t.columns ∧ c.name ∉ keys.map Column.name := by
  rw [others, List.mem_filter, List.all_eq_true, List.mem_map, not_exists]
  simp

lemma sliceGroups_eq (t : Table) (index : GroupIndex) (keys : List Column) (slice : GroupSlice)
    (m : Nat) : t.sliceGroups index keys slice m =
      ofColumns ((keys ++ t.others keys).map (·.take (slice.selectRows index m))) := rfl

lemma nodup_names_others (hnodup : (keys.map Column.name).Nodup) :
    ((keys ++ t.others keys).map Column.name).Nodup := by
  rw [List.map_append, List.nodup_append]
  refine ⟨hnodup, (List.filter_sublist.map _).nodup t.distinctNames, ?_⟩
  rintro _ hkey _ hother rfl
  obtain ⟨c, hc, hname⟩ := List.mem_map.mp hother
  exact (mem_others.mp hc).2 (hname ▸ hkey)

/-- Groups by keys with distinct names can always be sliced. -/
lemma exists_sliceGroups (hnodup : (keys.map Column.name).Nodup) (index : GroupIndex)
    (slice : GroupSlice) (m : Nat) : ∃ u, t.sliceGroups index keys slice m = .ok u := by
  rw [sliceGroups_eq, exists_ofColumns_iff]
  constructor
  · intro c hc d hd
    obtain ⟨c, -, rfl⟩ := List.mem_map.mp hc
    obtain ⟨d, -, rfl⟩ := List.mem_map.mp hd
    rw [Column.length_take, Column.length_take]
  · rw [Column.DistinctNames, Column.map_name_take]
    exact nodup_names_others hnodup

section Sliced

variable (hu : t.sliceGroups index keys slice m = .ok u)
include hu

lemma columns_sliceGroups :
    u.columns = (keys ++ t.others keys).map (·.take (slice.selectRows index m)) :=
  ofColumns_eq_ok_iff.mp hu

lemma height_sliceGroups (hne : keys ≠ []) : u.height = (slice.selectRows index m).length := by
  obtain ⟨key, hkey⟩ := List.exists_mem_of_ne_nil _ hne
  have hmem : key.take (slice.selectRows index m) ∈ u.columns := by
    rw [columns_sliceGroups hu]
    exact List.mem_map_of_mem (List.mem_append_left _ hkey)
  rw [← length_of_mem hmem, Column.length_take]

lemma others_sliceGroups : u.others (keys.map (·.take (slice.selectRows index m))) =
    (t.others keys).map (·.take (slice.selectRows index m)) := by
  -- The names stay, so that of the columns the keys are left out and the others are not.
  have hkeys : ((keys.map (·.take (slice.selectRows index m))).filter fun c =>
      (keys.map (·.take (slice.selectRows index m))).all fun key => key.name != c.name) = [] := by
    rw [List.filter_eq_nil_iff]
    intro c hc hall
    simpa using List.all_eq_true.mp hall c hc
  have hothers : (((t.others keys).map (·.take (slice.selectRows index m))).filter fun c =>
      (keys.map (·.take (slice.selectRows index m))).all fun key => key.name != c.name) =
        (t.others keys).map (·.take (slice.selectRows index m)) := by
    rw [List.filter_eq_self, List.forall_mem_map]
    intro c hc
    rw [List.all_map]
    exact (List.mem_filter.mp hc).2
  rw [others, columns_sliceGroups hu, List.map_append, List.filter_append, hkeys, hothers,
    List.nil_append]

end Sliced

/-- To slice the groups of slices is to slice the groups themselves. -/
lemma sliceGroups_sliceGroups (hne : keys ≠ [])
    (hu : t.sliceGroups (.ofKeys keys t.height) keys slice m = .ok u)
    (hslice : ∀ rows, slice'.apply (slice.apply rows m) k = slice''.apply rows j) :
    let rows := slice.selectRows (.ofKeys keys t.height) m
    u.sliceGroups (.ofKeys (keys.map (·.take rows)) u.height) (keys.map (·.take rows)) slice' k =
      t.sliceGroups (.ofKeys keys t.height) keys slice'' j := by
  intro rows
  have hindex' := GroupIndex.classifies_ofKept keys rows
  have hrows : (slice'.selectRows (.ofKept keys rows) k).map (rows.getD · 0) =
      slice''.selectRows (.ofKeys keys t.height) j := by
    have hmap := GroupIndex.map_selectRows_selectRows (Column.sameRow_equivalence keys)
      (Column.sameRow_equivalence (keys.map (·.take rows))) rfl
      (fun a ha b hb => Column.sameRow_take ha hb) slice' k
    simp only [hslice] at hmap
    exact hmap
  have hplaces : ∀ i ∈ slice'.selectRows (.ofKept keys rows) k, rows[i]? = some (rows.getD i 0) :=
    fun i hi => getElem?_eq_some_getD (hindex'.lt_of_mem_selectRows hi) 0
  -- Keys stand first in both tables, so the columns are the same ones in the same order.
  rw [sliceGroups_eq, height_sliceGroups hu hne, others_sliceGroups hu, ← List.map_append,
    List.map_map, sliceGroups_eq, ← hrows]
  exact congrArg _ (List.map_congr_left fun c _ => Column.take_take hplaces)

/-- The columns that keys refer to are there on the rows of slices, too. -/
lemma mapM_column_sliceGroups (hkeys : names.mapM t.column = .ok keys)
    (hu : t.sliceGroups index keys slice m = .ok u) :
    names.mapM u.column = .ok (keys.map (·.take (slice.selectRows index m))) := by
  have hmem : ∀ c ∈ keys.map (·.take (slice.selectRows index m)), c ∈ u.columns := by
    intro c hc
    rw [columns_sliceGroups hu, List.map_append]
    exact List.mem_append_left _ hc
  have hcolumns := mapM_column_map_name hmem
  rwa [Column.map_name_take, map_name_of_mapM_column hkeys] at hcolumns

lemma groupBy_slice_slice (hnodup : names.Nodup)
    (hslice : ∀ rows, slice'.apply (slice.apply rows m) k = slice''.apply rows j) :
    (t.groupBy (names.map .col) (.slice slice m) >>= fun u =>
      u.groupBy (names.map .col) (.slice slice' k)) = t.groupBy (names.map .col) (.slice slice'' j) := by
  cases hkeys : names.mapM t.column with
  | error fault =>
    rw [groupBy_cols_eq, groupBy_cols_eq, hkeys]
    rfl
  | ok keys =>
    by_cases hne : keys = []
    · rw [groupBy_cols_eq, groupBy_cols_eq, hkeys, hne]
      rfl
    · rw [← map_name_of_mapM_column hkeys] at hnodup
      obtain ⟨u, hu⟩ := exists_sliceGroups hnodup (.ofKeys keys t.height) slice m
      have hagain := mapM_column_sliceGroups hkeys hu
      rw [groupBy_cols_of_ok hkeys hne, groupBy_cols_of_ok hkeys hne, groupStep, groupStep, hu, ok_bind,
        groupBy_cols_of_ok hagain (mt List.map_eq_nil_iff.mp hne)]
      exact sliceGroups_sliceGroups hne hu hslice

end Table

/-- The first or last rows of each group of a table by some of its columns. -/
def Table.sliceBy (t : Table) (names : List String) (slice : GroupSlice) (n : Int64) :
    Except Fault Table :=
  (Plan.groupBy (.scan t) (names.map .col) (.slice slice n)).run

lemma Table.sliceBy_eq {n : Int64} (hn : 0 ≤ n.toInt) :
    t.sliceBy names slice n = t.groupBy (names.map .col) (.slice slice n.toInt.toNat) := by
  have hstep : (GroupAction.slice slice n).step = .ok (.slice slice n.toInt.toNat) := by
    rw [GroupAction.step, GroupSlice.checkLength, if_neg (Int.not_lt.mpr hn), map_ok]
  exact Plan.run_groupBy_scan hstep

/-- Groups by columns with distinct names can always be sliced. -/
lemma Table.exists_sliceBy (hnodup : names.Nodup) (hne : names ≠ [])
    (hnames : ∀ name ∈ names, name ∈ t.names) (slice : GroupSlice) {n : Int64} (hn : 0 ≤ n.toInt) :
    ∃ out, t.sliceBy names slice n = .ok out := by
  obtain ⟨keys, hkeys⟩ := exists_mapM_eq_ok_iff.mpr fun name hname =>
    exists_column_iff.mpr (hnames name hname)
  have hkeysne : keys ≠ [] := by
    rintro rfl
    exact hne (map_name_of_mapM_column hkeys).symm
  rw [← map_name_of_mapM_column hkeys] at hnodup
  obtain ⟨u, hu⟩ := exists_sliceGroups (t := t) hnodup (.ofKeys keys t.height) slice n.toInt.toNat
  refine ⟨u, ?_⟩
  rw [sliceBy_eq hn, groupBy_cols_of_ok hkeys hkeysne, groupStep, hu]

lemma toInt_min (m n : Int64) : (min m n).toInt = min m.toInt n.toInt := by
  show (if m ≤ n then m else n).toInt = _
  split
  · next hle =>
    rw [Int64.le_iff_toInt_le] at hle
    rw [Int.min_eq_left hle]
  · next hle =>
    rw [Int64.le_iff_toInt_le] at hle
    rw [Int.min_eq_right (by omega)]

/-- If groups are sliced and the rows that are left are grouped by the same columns and sliced again,
then this is one slice: of two slices at the same end the shorter one, and otherwise the first one if it
is not the longer one. Groups by columns with distinct names can always be sliced. -/
theorem Table.sliceBy_sliceBy (t : Table) (hnodup : names.Nodup) {m n : Int64} (hm : 0 ≤ m.toInt)
    (hn : 0 ≤ n.toInt) :
    (∀ slice, (t.sliceBy names slice m >>= fun u => u.sliceBy names slice n) =
      t.sliceBy names slice (min m n)) ∧
    (m ≤ n → ∀ slice slice', (t.sliceBy names slice m >>= fun u => u.sliceBy names slice' n) =
      t.sliceBy names slice m) ∧
    (names ≠ [] → (∀ name ∈ names, name ∈ t.names) →
      ∀ slice, ∃ out, t.sliceBy names slice m = .ok out) := by
  refine ⟨?_, ?_, ?_⟩
  · intro slice
    -- Of two slices from the same end the shorter decides, group by group.
    have hmin : 0 ≤ (min m n).toInt := by rw [toInt_min]; omega
    simp only [sliceBy_eq hm, sliceBy_eq hn, sliceBy_eq hmin]
    apply groupBy_slice_slice hnodup
    intro rows
    have hlength : (min m n).toInt.toNat = min m.toInt.toNat n.toInt.toNat := by
      rw [toInt_min]
      omega
    rw [GroupSlice.apply_apply, hlength]
  · intro hle slice slice'
    -- The second slice is at least as long as what the first one left, whichever end it starts from.
    rw [Int64.le_iff_toInt_le] at hle
    simp only [sliceBy_eq hm, sliceBy_eq hn]
    apply groupBy_slice_slice hnodup
    intro rows
    exact GroupSlice.apply_apply_of_le (by omega) slice'
  · exact fun hne hnames slice => exists_sliceBy hnodup hne hnames slice hm

/-- Slices of groups whose rows lie apart, by a column that is not the first one. -/
theorem Table.sliceBy_sliceBy_apart :
    ∃ t u : Table, t.columns = [⟨"n", .int64, [some 1, some 2, some 3, some 4, some 5]⟩,
        ⟨"k", .utf8, [some "a", some "b", some "a", none, some "a"]⟩] ∧
      ["k"].Nodup ∧ 0 ≤ (2 : Int64).toInt ∧ 0 ≤ (1 : Int64).toInt ∧ (2 : Int64) ≤ 2 ∧
      t.sliceBy ["k"] .tail 2 = .ok u ∧
      u.columns = [⟨"k", .utf8, [some "a", some "a", some "b", none]⟩,
        ⟨"n", .int64, [some 3, some 5, some 2, some 4]⟩] ∧
      u.sliceBy ["k"] .tail 1 = t.sliceBy ["k"] .tail 1 ∧ u.sliceBy ["k"] .head 2 = .ok u := by
  let t : Table :=
    { columns := [⟨"n", .int64, [some 1, some 2, some 3, some 4, some 5]⟩,
        ⟨"k", .utf8, [some "a", some "b", some "a", none, some "a"]⟩]
      sameHeight := by simp [Column.SameHeight, Column.length]
      distinctNames := by simp [Column.DistinctNames] }
  let u : Table :=
    { columns := [⟨"k", .utf8, [some "a", some "a", some "b", none]⟩,
        ⟨"n", .int64, [some 3, some 5, some 2, some 4]⟩]
      sameHeight := by simp [Column.SameHeight, Column.length]
      distinctNames := by simp [Column.DistinctNames] }
  have hnodup : ["k"].Nodup := by decide
  have htwo : 0 ≤ (2 : Int64).toInt := by decide
  have hone : 0 ≤ (1 : Int64).toInt := by decide
  have hrows : GroupSlice.tail.selectRows
      (.ofKeys [⟨"k", .utf8, [some "a", some "b", some "a", none, some "a"]⟩] 5) 2 = [2, 4, 1, 3] := by
    decide
  have hu : t.sliceBy ["k"] .tail 2 = .ok u := by
    have hkeys : ["k"].mapM t.column =
        .ok [⟨"k", .utf8, [some "a", some "b", some "a", none, some "a"]⟩] := rfl
    have hheight : t.height = 5 := rfl
    have hlength : (2 : Int64).toInt.toNat = 2 := by decide
    rw [sliceBy_eq htwo, groupBy_cols_of_ok hkeys (List.cons_ne_nil _ _), groupStep, hheight, hlength,
      sliceGroups_eq, hrows]
    exact ofColumns_eq_ok_iff.mpr rfl
  obtain ⟨hshorter, -, -⟩ := sliceBy_sliceBy t hnodup htwo hone
  obtain ⟨-, hlonger, -⟩ := sliceBy_sliceBy t hnodup htwo htwo
  have htail := hshorter .tail
  have hhead := hlonger (Int64.le_refl 2) .tail .head
  rw [hu, ok_bind] at htail hhead
  exact ⟨t, u, rfl, hnodup, htwo, hone, Int64.le_refl 2, hu, rfl, htail, hhead⟩

end TimeTable
