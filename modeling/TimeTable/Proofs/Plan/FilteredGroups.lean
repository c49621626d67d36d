import TimeTable.Proofs.Expr.Keys
import TimeTable.Proofs.Plan.Filter
import TimeTable.Proofs.Plan.KeptGroups

/-!
# Filtering groups by their keys

A predicate of the keys keeps or drops all rows of a group together. So it makes no difference whether
groups are aggregated or sliced before they are filtered or after the rows of the table are.
-/

namespace TimeTable

variable {t g out : Table} {keys : List Column} {c : Column} {p : Expr} {step : GroupStep}

/-- Whether rows of every group are taken. -/
def GroupStep.TakesRows : GroupStep → Prop
  | .agg _ => True
  | .slice _ m => m ≠ 0

lemma GroupAction.takesRows_of_step {action : GroupAction} (h : action.step = .ok step)
    (hn : ∀ slice n, action = .slice slice n → 1 ≤ n.toInt) : step.TakesRows := by
  cases action with
  | agg aggs =>
    obtain rfl := Except.ok.inj h
    trivial
  | slice slice n =>
    obtain ⟨m, hm, rfl⟩ := map_eq_ok.mp h
    have hpos := hn slice n rfl
    rw [GroupSlice.checkLength, if_neg (by omega)] at hm
    obtain rfl := Except.ok.inj hm
    show n.toInt.toNat ≠ 0
    omega

/-- In any case the keys are those of slices of the groups. -/
lemma GroupStep.exists_keyRows_eq (step : GroupStep) (index : GroupIndex) :
    ∃ slice m, step.keyRows index = GroupSlice.selectRows slice index m ∧
      (step.TakesRows → m ≠ 0) := by
  cases step with
  | agg aggs => exact ⟨.head, 1, (GroupSlice.selectRows_head_one index).symm, fun _ => Nat.one_ne_zero⟩
  | slice slice m => exact ⟨slice, m, rfl, fun hm => hm⟩

namespace Table

lemma lt_of_mem_keyRows {row : Nat} (hrow : row ∈ step.keyRows (.ofKeys keys t.height)) :
    row < t.height := by
  obtain ⟨slice, m, hslice, -⟩ := step.exists_keyRows_eq (.ofKeys keys t.height)
  rw [hslice] at hrow
  exact (GroupIndex.classifies_ofKeys keys t.height).lt_of_mem_selectRows hrow

lemma exists_mem_keyRows (hstep : step.TakesRows) {row : Nat} (hrow : row < t.height) :
    ∃ other ∈ step.keyRows (.ofKeys keys t.height), Column.sameRow keys other row = true := by
  obtain ⟨slice, m, hslice, hm⟩ := step.exists_keyRows_eq (.ofKeys keys t.height)
  rw [hslice]
  exact (GroupIndex.classifies_ofKeys keys t.height).exists_mem_selectRows slice (hm hstep) hrow
    ((Column.sameRow_equivalence keys).refl row)

section Filter

variable (hkeys : ∀ key ∈ keys, t.column? key.name = some key)
include hkeys

lemma length_of_isColumn : ∀ key ∈ keys, key.length = t.height :=
  fun key hkey => length_of_mem (column?_eq_some (hkeys key hkey)).1

variable (hne : keys ≠ []) (hp : p.RefersToKeys t keys) (hrowwise : p.isRowwise)
  (h : t.groupStep keys step = .ok g)
include h

/-- A predicate of the keys is evaluated on a table of groups as on the rows of its keys. -/
lemma evaluate_groupStep (hp : p.RefersToKeys t keys) :
    p.evaluate g = p.evaluate (t.take (step.keyRows (.ofKeys keys t.height))) := by
  apply Expr.evaluate_congr
  intro name hname
  obtain ⟨key, hkey, hcolumn⟩ := hp name hname
  rw [column?_take, hcolumn, Option.map_some, column?_eq_some_iff]
  refine ⟨take_keyRows_mem_columns (length_of_isColumn hkeys) h hkey, ?_⟩
  exact (column?_eq_some hcolumn).2

include hne

lemma keptRows_groupStep :
    g.keptRows p (c.onRows p.isScalar (step.keyRows (.ofKeys keys t.height))) =
      keptPlaces (p.holdsAt c) 0 (step.keyRows (.ofKeys keys t.height)) := by
  exact keptRows_onRows (height_groupStep (length_of_isColumn hkeys) hne h)

include hp hrowwise

/-- If a table of groups can be filtered by its keys and a row is left then the table itself can be
filtered, and its groups give what is left. -/
lemma exists_filter_groupStep (hstep : step.TakesRows) (hout : g.filter p = .ok out)
    (hheight : out.height ≠ 0) :
    ∃ kept, t.filter p = .ok (t.take kept) ∧
      (t.take kept).groupStep (keys.map (·.take kept)) step = .ok out := by
  obtain ⟨_, hrows, hmask, rfl⟩ := filter_eq_ok_iff.mp hout
  rw [evaluate_groupStep hkeys h hp] at hrows
  -- The rows of the keys stand for all rows, so the predicate has a column on the table itself.
  obtain ⟨c, hc, rfl⟩ := hp.exists_evaluate hrowwise (fun _ => lt_of_mem_keyRows)
    (fun _ => exists_mem_keyRows hstep) hrows
  rw [keptRows_groupStep hkeys hne h] at hheight ⊢
  have hcolumns : t.columns ≠ [] := by
    obtain ⟨key, hkey⟩ := List.exists_mem_of_ne_nil _ hne
    exact List.ne_nil_of_mem (column?_eq_some (hkeys key hkey)).1
  -- Rows with the same keys are kept or dropped together: no group is cut in two.
  have hkeep : ∀ a < t.height, ∀ b < t.height, Column.sameRow keys a b = true →
      p.holdsAt c a = p.holdsAt c b :=
    fun a ha b hb hsame => congrArg Scalar.isTrue (hp.get_eq_get hrowwise hc ha hb hsame)
  have hplaces : keptPlaces (p.holdsAt c) 0 (step.keyRows (.ofKeys keys t.height)) ≠ [] := by
    intro hnil
    rw [hnil] at hheight
    exact hheight (height_take_nil g)
  rw [Column.IsMask, Column.dtype_onRows] at hmask
  exact ⟨t.keptRows p c, filter_eq_ok_iff.mpr ⟨c, hc, hmask, rfl⟩,
    groupStep_kept rfl hkeep (length_of_isColumn hkeys) (height_take hcolumns) hplaces h⟩

end Filter

/-- The same for tables that are grouped by some of their columns. -/
lemma exists_filter_groupBy {names : List String} (hrowwise : p.isRowwise)
    (hnames : ∀ name ∈ p.references, name ∈ names) (hstep : step.TakesRows)
    (hg : t.groupBy (names.map .col) step = .ok g) (hout : g.filter p = .ok out)
    (hheight : out.height ≠ 0) :
    ∃ u, t.filter p = .ok u ∧ u.groupBy (names.map .col) step = .ok out := by
  obtain ⟨keys, hkeys, hne, h⟩ := groupBy_eq_ok_iff.mp hg
  simp only [List.forall₂_map_left_iff, keyColumn_col] at hkeys
  have hcolumns : ∀ key ∈ keys, t.column? key.name = some key := by
    intro key hkey
    obtain ⟨name, -, hname⟩ := exists_mem_of_forall₂_right hkeys hkey
    rw [(column?_eq_some hname).2, hname]
  have hp : p.RefersToKeys t keys := by
    intro name hname
    obtain ⟨key, hkey, hcolumn⟩ := exists_mem_of_forall₂ hkeys (hnames name hname)
    exact ⟨key, hkey, hcolumn⟩
  obtain ⟨kept, hfilter, hstep⟩ :=
    exists_filter_groupStep hcolumns hne hp hrowwise h hstep hout hheight
  refine ⟨t.take kept, hfilter, groupBy_eq_ok_iff.mpr ⟨_, ?_, ?_, hstep⟩⟩
  · simp only [List.forall₂_map_left_iff, List.forall₂_map_right_iff, keyColumn_col, column?_take]
    exact hkeys.imp fun name key hname => by rw [hname, Option.map_some]
  · exact fun hnil => hne (List.map_eq_nil_iff.mp hnil)

end Table

/-- Groups by columns can be filtered by a predicate of these columns before they are made: if groups are
aggregated or sliced, and the predicate keeps some row of the table that they give, then the same table
is given by the groups of the rows for which the predicate holds. -/
theorem Plan.filter_groupBy_comm {input : Plan} {names : List String} {action : GroupAction}
    (hrowwise : p.isRowwise) (hnames : ∀ name ∈ p.references, name ∈ names)
    (haction : ∀ slice n, action = .slice slice n → 1 ≤ n.toInt)
    (h : (Plan.filter (.groupBy input (names.map .col) action) p).run = .ok out)
    (hheight : out.height ≠ 0) :
    (Plan.groupBy (.filter input p) (names.map .col) action).run = .ok out := by
  obtain ⟨g, hg, hout⟩ := run_filter_eq_ok_iff.mp h
  obtain ⟨step, hstep, t, ht, hg⟩ := run_groupBy_eq_ok_iff.mp hg
  obtain ⟨u, hu, hgroups⟩ := Table.exists_filter_groupBy hrowwise hnames
    (GroupAction.takesRows_of_step hstep haction) hg hout hheight
  exact run_groupBy_eq_ok_iff.mpr
    ⟨step, hstep, u, run_filter_eq_ok_iff.mpr ⟨t, ht, hu⟩, hgroups⟩

/-- The two zeros are keys of different groups, and the predicate keeps both. -/
theorem Plan.filter_groupBy_comm_zeros :
    let p : Expr := .compare (.col "k") .eq (.lit (.float64 ⟨0⟩))
    let action : GroupAction := .agg [.reduce (.col "n") .sum]
    ∃ t out : Table, t.columns =
        [⟨"k", .float64, [some ⟨0⟩, some ⟨0x8000000000000000⟩, none, some ⟨0⟩]⟩,
          ⟨"n", .int64, [some 1, some 2, some 3, some 4]⟩] ∧
      p.isRowwise ∧ (∀ name ∈ p.references, name ∈ ["k"]) ∧
      (∀ slice n, action = .slice slice n → 1 ≤ n.toInt) ∧
      (Plan.filter (.groupBy (.scan t) (["k"].map .col) action) p).run = .ok out ∧
      out.columns = [⟨"k", .float64, [some ⟨0⟩, some ⟨0x8000000000000000⟩]⟩,
        ⟨"n", .int64, [some 5, some 2]⟩] ∧ out.height ≠ 0 ∧
      (Plan.groupBy (.filter (.scan t) p) (["k"].map .col) action).run = .ok out := by
  intro p action
  let t : Table :=
    { columns := [⟨"k", .float64, [some ⟨0⟩, some ⟨0x8000000000000000⟩, none, some ⟨0⟩]⟩,
        ⟨"n", .int64, [some 1, some 2, some 3, some 4]⟩]
      sameHeight := by simp [Column.SameHeight, Column.length]
      distinctNames := by simp [Column.DistinctNames] }
  have hrowwise : p.isRowwise := rfl
  have hnames : ∀ name ∈ p.references, name ∈ ["k"] := fun name hname => hname
  have haction : ∀ slice n, action = .slice slice n → 1 ≤ n.toInt := by
    intro slice n h
    simp [action] at h
  let g : Table :=
    { columns := [⟨"k", .float64, [some ⟨0⟩, some ⟨0x8000000000000000⟩, none]⟩,
        ⟨"n", .int64, [some 5, some 2, some 3]⟩]
      sameHeight := by simp [Column.SameHeight, Column.length]
      distinctNames := by simp [Column.DistinctNames] }
  have hg : (Plan.groupBy (.scan t) (["k"].map .col) action).run = .ok g :=
    run_groupBy_eq_ok_iff.mpr ⟨_, rfl, t, rfl, Table.groupBy_eq_ok_iff.mpr
      ⟨_, .cons rfl .nil, List.cons_ne_nil _ _, rfl⟩⟩
  have hout : (Plan.filter (.groupBy (.scan t) (["k"].map .col) action) p).run =
      .ok (g.take [0, 1]) :=
    run_filter_eq_ok_iff.mpr ⟨g, hg, rfl⟩
  exact ⟨t, g.take [0, 1], rfl, hrowwise, hnames, haction, hout, rfl, by decide,
    filter_groupBy_comm hrowwise hnames haction hout (by decide)⟩

end TimeTable
