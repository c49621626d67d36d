import Mathlib.Algebra.GroupWithZero.Nat
import TimeTable.Proofs.Plan.Zones
import TimeTable.Zone.Known

/-!
# Heights of the tables that plans give

Whatever a plan is made of, it gives a table or fails, and only where a clock is in a zone does it fail with
a crash. A sort and columns put into a table keep its height. A filter keeps the rows in which its mask
holds, an aggregation gives a row for each different key, and a slice gives from each group as many rows as
it asks for, or all of them if there are fewer.
-/

namespace TimeTable

variable {t u out : Table} {keys columns : List Column} {exprs aggs : List Expr} {c d : Column}
  {p : Expr} {names : List String} {descending : Bool} {m n : Nat}

namespace Table

/-! ### Sorts and filters -/

lemma height_sort (h : t.sort names descending = .ok out) : out.height = t.height := by
  obtain ⟨keys, -, rfl⟩ := sort_eq_ok_iff.mp h
  exact height_take_of_perm (sortRows_perm _ _)

/-- A filter keeps as many rows as its mask, brought to the height of the table, has values that hold. -/
lemma height_filter (h : t.filter p = .ok out) :
    ∃ c, p.evaluate t = .ok c ∧
      out.height = (c.broadcast t.height).toScalars.countP Scalar.isTrue := by
  obtain ⟨c, hc, -, rfl⟩ := filter_eq_ok_iff.mp h
  refine ⟨c, hc, ?_⟩
  rw [height_take_of_lt fun _ => lt_of_mem_keptRows, ← heldRows_broadcast hc,
    Column.toScalars_eq_map_get, List.countP_map, List.countP_eq_length_filter]
  rfl

/-! ### Groups -/

def keyRow (keys : List Column) (row : Nat) : List Scalar := keys.map fun key => key.get row

lemma sameRow_iff_keyRow_eq {a b : Nat} :
    Column.sameRow keys a b = true ↔ keyRow keys a = keyRow keys b := by
  rw [Column.sameRow_iff, keyRow, keyRow, List.map_inj_left]

/-- The different keys of the first rows, each once: those of the rows that no earlier row is equal to. -/
def distinctKeys (keys : List Column) (n : Nat) : List (List Scalar) :=
  (GroupIndex.firsts (Column.sameRow keys) n).map (keyRow keys)

lemma nodup_distinctKeys (keys : List Column) (n : Nat) : (distinctKeys keys n).Nodup := by
  refine List.Nodup.map_on ?_ (GroupIndex.firsts_ascending.imp Nat.ne_of_lt)
  intro a ha b hb h
  exact GroupIndex.first_unique (Column.sameRow_equivalence keys) ha hb (sameRow_iff_keyRow_eq.mpr h)

lemma mem_distinctKeys {values : List Scalar} :
    values ∈ distinctKeys keys n ↔ ∃ row < n, values = keyRow keys row := by
  rw [distinctKeys, List.mem_map]
  constructor
  · rintro ⟨row, hrow, rfl⟩
    exact ⟨row, (GroupIndex.mem_firsts.mp hrow).1, rfl⟩
  · rintro ⟨row, hrow, rfl⟩
    obtain ⟨first, hfirst, hsame⟩ := GroupIndex.exists_first (Column.sameRow_equivalence keys) hrow
    exact ⟨first, hfirst, sameRow_iff_keyRow_eq.mp hsame⟩

/-- An aggregation of groups has a row for each different key. -/
lemma height_aggregate (hkeys : ∀ key ∈ keys, key.length = t.height) (hne : keys ≠ [])
    (h : t.aggregate (.ofKeys keys t.height) keys aggs = .ok out) :
    out.height = (distinctKeys keys t.height).length := by
  obtain ⟨columns, hcolumns, -⟩ := columns_of_aggregate hkeys h
  obtain ⟨key, hkey⟩ := List.exists_mem_of_ne_nil _ hne
  have hmem : key.take (GroupIndex.ofKeys keys t.height).firstRows ∈ out.columns := by
    rw [hcolumns]
    exact List.mem_append_left _ (List.mem_map_of_mem hkey)
  rw [← length_of_mem hmem, Column.length_take, distinctKeys, List.length_map, GroupIndex.ofKeys,
    GroupIndex.firstRows_classes (Column.sameRow_equivalence keys)]

end Table

lemma GroupSlice.length_apply (slice : GroupSlice) (rows : List Nat) (m : Nat) :
    (slice.apply rows m).length = min m rows.length := by
  cases slice with
  | head => exact List.length_take
  | tail =>
    rw [apply, List.length_drop]
    omega

/-- A slice has from each group as many rows as are asked for, or all of them. -/
lemma GroupSlice.length_selectRows (slice : GroupSlice) (index : GroupIndex) (m : Nat) :
    (slice.selectRows index m).length = (index.sizes.map (min m)).sum := by
  rw [selectRows, List.length_flatMap, GroupIndex.sizes, List.map_map]
  exact congrArg List.sum (List.map_congr_left fun rows _ => slice.length_apply rows m)

namespace Plan

variable {input : Plan} {action : GroupAction}

/-- What a plan that groups gives, if its input gives a table: the step of its action on the groups by
the columns of its keys. -/
lemma exists_groupStep_of_run (hinput : input.run = .ok t)
    (h : (Plan.groupBy input exprs action).run = .ok out) :
    ∃ step keys, action.step = .ok step ∧
      List.Forall₂ (fun key c => t.keyColumn key = .ok c) exprs keys ∧ keys ≠ [] ∧
        t.groupStep keys step = .ok out := by
  obtain ⟨step, hstep, t', ht', hout⟩ := run_groupBy_eq_ok_iff.mp h
  obtain rfl := Except.ok.inj (hinput.symm.trans ht')
  obtain ⟨keys, hkeys, hne, hout⟩ := Table.groupBy_eq_ok_iff.mp hout
  exact ⟨step, keys, hstep, hkeys, hne, hout⟩

lemma height_of_run_agg (hinput : input.run = .ok t)
    (h : (Plan.groupBy input exprs (.agg aggs)).run = .ok out) :
    ∃ keys, List.Forall₂ (fun key c => t.keyColumn key = .ok c) exprs keys ∧
      out.height = (Table.distinctKeys keys t.height).length := by
  obtain ⟨step, keys, hstep, hkeys, hne, hout⟩ := exists_groupStep_of_run hinput h
  obtain rfl := Except.ok.inj hstep
  exact ⟨keys, hkeys, Table.height_aggregate (Table.length_of_keyColumns hkeys) hne hout⟩

lemma height_of_run_slice {slice : GroupSlice} {k : Int64} (hinput : input.run = .ok t)
    (h : (Plan.groupBy input exprs (.slice slice k)).run = .ok out) :
    ∃ keys index, List.Forall₂ (fun key c => t.keyColumn key = .ok c) exprs keys ∧
      GroupIndex.build keys t.height = .ok index ∧
        out.height = (index.sizes.map (min k.toInt.toNat)).sum := by
  obtain ⟨step, keys, hstep, hkeys, hne, hout⟩ := exists_groupStep_of_run hinput h
  obtain ⟨m, hm, rfl⟩ := map_eq_ok.mp hstep
  rw [GroupSlice.checkLength] at hm
  split at hm
  · cases hm
  · obtain rfl := Except.ok.inj hm
    refine ⟨keys, .ofKeys keys t.height, hkeys, ?_, ?_⟩
    · exact GroupIndex.build_eq_ok hne (Table.length_of_keyColumns hkeys)
    · rw [Table.height_sliceGroups hout hne, GroupSlice.length_selectRows]

/-- A run that is no crash gives an error or a table, and a crash is always one at a reading. -/
lemma run_isError_or_isTable_iff (plan : Plan) :
    ((∃ t, plan.run = .ok t) ∨ ∃ fault, plan.run = .error fault ∧ fault.kind ≠ .crash) ↔
      ∀ fault, plan.run = .error fault → ¬fault.OfReading := by
  constructor
  · rintro (⟨t, ht⟩ | ⟨fault, hfault, hkind⟩) fault' hfault' hreading
    · exact nomatch ht.symm.trans hfault'
    · obtain rfl := Except.error.inj (hfault.symm.trans hfault')
      exact hkind hreading.kind_eq
  · intro h
    cases hrun : plan.run with
    | ok t => exact .inl ⟨t, rfl⟩
    | error fault =>
      exact .inr ⟨fault, rfl, fun hcrash => h fault hrun (plan.run_failsWith fault hrun |>.of_crash hcrash).1⟩

/-! ### All steps -/

/-- A plan that does not fail gives columns of one height with distinct names, which pass the check of a
table. If it fails then with an error, unless an instant in range has a reading out of range on the clock
of a zone; without a zone in its table and its expressions it does not crash. On the table that a plan
gives, to ask for a field of instants crashes if and only if one of them has no reading in range, a
grouping does not fail for groups that are no partition or for columns of different heights, a sort and
columns put in keep the height, a filter gives as many rows as its mask has values that hold, an
aggregation one row for each different key, and a slice from each group as many rows as it asks for, or
all of them. -/
theorem run_heights (plan : Plan) :
    (∀ t, plan.run = .ok t →
      (∀ c ∈ t.columns, c.length = t.height) ∧ t.names.Nodup ∧ Table.ofColumns t.columns = .ok t) ∧
    (((∃ t, plan.run = .ok t) ∨ ∃ fault, plan.run = .error fault ∧ fault.kind ≠ .crash) ↔
      ∀ fault, plan.run = .error fault → ¬fault.OfReading) ∧
    (¬plan.UsesZone → ∀ fault, plan.run = .error fault → fault.kind ≠ .crash) ∧
    ∀ t, plan.run = .ok t →
      (∀ name unit zone cells field, t.column? name = some ⟨name, .datetime unit zone, cells⟩ →
        ((∃ fault, (Plan.select plan [.temporal (.col name) (.field field)]).run = .error fault ∧
          fault.kind = .crash) ↔ ∃ v, some v ∈ cells ∧ unit.LosesReading zone v)) ∧
      (∀ exprs action fault, (Plan.groupBy plan exprs action).run = .error fault →
        fault.kind ≠ .keyInconsistency ∧ fault.kind ≠ .shapeMismatch) ∧
      (∀ names descending out, (Plan.sort plan names descending).run = .ok out →
        out.height = t.height) ∧
      (∀ exprs out, (Plan.withColumns plan exprs).run = .ok out → out.height = t.height) ∧
      (∀ p out, (Plan.filter plan p).run = .ok out →
        ∃ c, p.evaluate t = .ok c ∧
          out.height = (c.broadcast t.height).toScalars.countP Scalar.isTrue) ∧
      (∀ exprs aggs out, (Plan.groupBy plan exprs (.agg aggs)).run = .ok out →
        ∃ keys, List.Forall₂ (fun key c => t.keyColumn key = .ok c) exprs keys ∧
          ∃ distinct : List (List Scalar), distinct.Nodup ∧
            (∀ values, values ∈ distinct ↔ ∃ row < t.height, values = keys.map (·.get row)) ∧
            out.height = distinct.length) ∧
      ∀ exprs slice k out, (Plan.groupBy plan exprs (.slice slice k)).run = .ok out →
        ∃ keys index, List.Forall₂ (fun key c => t.keyColumn key = .ok c) exprs keys ∧
          GroupIndex.build keys t.height = .ok index ∧
          out.height = (index.sizes.map (min k.toInt.toNat)).sum := by
  refine ⟨?_, ?_, ?_, ?_⟩
  -- The table carries its own well-formedness, so this says nothing about how the plan got there.
  · intro t _
    exact ⟨fun c hc => Table.length_of_mem hc, t.distinctNames, Table.ofColumns_columns t⟩
  · exact run_isError_or_isTable_iff plan
  · intro hzone fault hfault hcrash
    exact hzone (plan.run_failsWith fault hfault |>.of_crash hcrash).2
  · intro t hplan
    refine ⟨?_, ?_, ?_, ?_, ?_, ?_, ?_⟩
    · intro name unit zone cells field hc
      exact run_field_crashes_iff hplan hc field
    · intro exprs action fault hfault
      -- A grouping fails by names or as an expression does, neither of which is about index or shape.
      have hnames := run_groupBy_failsWith hplan exprs action fault hfault
      exact ⟨hnames.kind_ne rfl (by decide) (by decide), hnames.kind_ne rfl (by decide) (by decide)⟩
    · intro names descending out hout
      rw [run, hplan] at hout
      exact Table.height_sort hout
    · intro exprs out hout
      rw [run, hplan] at hout
      exact Table.height_withExprs hout
    · intro p out hout
      rw [run, hplan] at hout
      exact Table.height_filter hout
    · intro exprs aggs out hout
      obtain ⟨keys, hkeys, hheight⟩ := height_of_run_agg hplan hout
      exact ⟨keys, hkeys, Table.distinctKeys keys t.height, Table.nodup_distinctKeys keys t.height,
        fun _ => Table.mem_distinctKeys, hheight⟩
    · intro exprs slice k out hout
      exact height_of_run_slice hplan hout

/-- The last instant in range is a crash of a plan that asks for its hour on a clock ahead of UTC: the clock
is in a year that is out of range. -/
lemma run_hour_of_last_instant (h : t.columns =
      [⟨"t", .datetime .milliseconds (some Zone.AsiaTokyo.zone), [some 8210266876799999]⟩]) :
    (Plan.select (.scan t) [.temporal (.col "t") (.field .hour)]).run =
      .error (.readingOutOfRange ⟨95026236, 86399, 999000000⟩ Zone.AsiaTokyo.zone) := by
  obtain ⟨columns, hheight, hnames⟩ := t
  subst h
  rfl

/-- Groups of a table without rows by a literal beside a column: they give no rows, and fail only for the
name of an aggregation that is a key already. And the hour of the last instant, the crash of a plan that
uses a zone. -/
theorem run_heights_at_limits :
    let keys : List Expr := [.lit (.int64 1), .reduce (.col "n") .max]
    ∃ (t out last : Table) (fault crash : Fault), t.columns = [⟨"n", .int64, []⟩] ∧
      (Plan.scan t).run = .ok t ∧ (Plan.groupBy (.scan t) keys (.slice .tail 3)).run = .ok out ∧
      (∀ c ∈ out.columns, c.length = out.height) ∧ out.names.Nodup ∧
      (∃ columns index, GroupIndex.build columns t.height = .ok index ∧
        out.height = (index.sizes.map (min (3 : Int64).toInt.toNat)).sum) ∧
      (Plan.groupBy (.scan t) keys (.agg [.col "n"])).run = .error fault ∧
      fault.kind ≠ .keyInconsistency ∧ fault.kind ≠ .shapeMismatch ∧
      (¬(Plan.groupBy (.scan t) keys (.agg [.col "n"])).UsesZone ∧ fault.kind ≠ .crash) ∧
      (Plan.select (.scan last) [.temporal (.col "t") (.field .hour)]).run = .error crash ∧
      crash.kind = .crash ∧
      (∃ v, some v ∈ [some (8210266876799999 : Int64)] ∧
        TimeUnit.milliseconds.LosesReading (some Zone.AsiaTokyo.zone) v) ∧
      ¬∀ fault, (Plan.select (.scan last) [.temporal (.col "t") (.field .hour)]).run = .error fault →
        ¬fault.OfReading := by
  intro keys
  let t : Table :=
    { columns := [⟨"n", .int64, []⟩]
      sameHeight := by simp [Column.SameHeight, Column.length]
      distinctNames := by simp [Column.DistinctNames] }
  let u : Table :=
    { columns := [⟨"literal", .int64, []⟩, ⟨"n", .int64, []⟩]
      sameHeight := by simp [Column.SameHeight, Column.length]
      distinctNames := by simp [Column.DistinctNames] }
  let last : Table :=
    { columns :=
        [⟨"t", .datetime .milliseconds (some Zone.AsiaTokyo.zone), [some 8210266876799999]⟩]
      sameHeight := by simp [Column.SameHeight]
      distinctNames := by simp [Column.DistinctNames] }
  have hkeys : keys.mapM t.keyColumn = .ok [⟨"literal", .int64, []⟩, ⟨"n", .int64, []⟩] := rfl
  have hout : (Plan.groupBy (.scan t) keys (.slice .tail 3)).run = .ok u := by
    rw [run_groupBy_scan rfl, Table.groupBy_eq_ok_iff]
    refine ⟨_, mapM_eq_ok_iff.mp hkeys, List.cons_ne_nil _ _, ?_⟩
    rw [Table.groupStep, Table.sliceGroups_eq]
    exact Table.ofColumns_eq_ok_iff.mpr rfl
  have hfault : (Plan.groupBy (.scan t) keys (.agg [.col "n"])).run =
      .error (.duplicateColumn "n") := by
    rw [run_groupBy_scan rfl, Table.groupBy_eq, hkeys]
    rfl
  have hcrash := run_hour_of_last_instant (t := last) rfl
  have hzone : ¬(Plan.groupBy (.scan t) keys (.agg [.col "n"])).UsesZone := by
    rintro (⟨c, hc, hzoned⟩ | ⟨e, he, hnames⟩)
    · obtain rfl := List.mem_singleton.mp hc
      exact hzoned
    · rcases List.mem_cons.mp he with rfl | he
      · exact hnames
      · rcases List.mem_cons.mp he with rfl | he
        · exact hnames
        · obtain rfl := List.mem_singleton.mp he
          exact hnames
  obtain ⟨-, -, hnocrash, -⟩ := run_heights (Plan.groupBy (.scan t) keys (.agg [.col "n"]))
  obtain ⟨hvalid, -, -, -⟩ := run_heights (Plan.groupBy (.scan t) keys (.slice .tail 3))
  obtain ⟨hlength, hnodup, -⟩ := hvalid u hout
  obtain ⟨-, -, -, hheights⟩ := run_heights (.scan t)
  obtain ⟨-, hfaults, -, -, -, -, hslices⟩ := hheights t rfl
  obtain ⟨columns, index, -, hindex, hheight⟩ := hslices keys .tail 3 u hout
  obtain ⟨-, hends, -, -⟩ := run_heights (.select (.scan last) [.temporal (.col "t") (.field .hour)])
  obtain ⟨-, -, -, hlast⟩ := run_heights (.scan last)
  obtain ⟨hfields, -⟩ := hlast last rfl
  have hlost := (hfields "t" _ _ _ .hour rfl).mp ⟨_, hcrash, rfl⟩
  obtain ⟨hkey, hshape⟩ := hfaults keys _ _ hfault
  refine ⟨t, u, last, _, _, rfl, rfl, hout, hlength, hnodup, ⟨columns, index, hindex, hheight⟩, hfault,
    hkey, hshape, ⟨hzone, hnocrash hzone _ hfault⟩, hcrash, rfl, hlost, fun h => ?_⟩
  rcases hends.mpr h with ⟨out, hout⟩ | ⟨fault, hfault, hkind⟩
  · rw [hcrash] at hout
    cases hout
  · rw [hcrash] at hfault
    cases hfault
    exact hkind rfl

/-- A plan over a table that gives neither an error nor a table. -/
theorem run_crashes_on_last_day :
    ∃ (t : Table) (fault : Fault), t.columns =
        [⟨"t", .datetime .milliseconds (some Zone.AsiaTokyo.zone), [some 8210266876799999]⟩] ∧
      (∀ c ∈ t.columns, c.length = t.height) ∧ t.names.Nodup ∧
      (Plan.select (.scan t) [.temporal (.col "t") (.field .hour)]).run = .error fault ∧
      fault.kind = .crash := by
  let t : Table :=
    { columns :=
        [⟨"t", .datetime .milliseconds (some Zone.AsiaTokyo.zone), [some 8210266876799999]⟩]
      sameHeight := by simp [Column.SameHeight]
      distinctNames := by simp [Column.DistinctNames] }
  exact ⟨t, _, rfl, fun _ hc => Table.length_of_mem hc, t.distinctNames,
    run_hour_of_last_instant rfl, rfl⟩

end Plan
end TimeTable
