import Mathlib.Data.List.Chain
import TimeTable.Proofs.Table.Sorting

/-!
# The stable sort

What it means for rows to be sorted by some columns, said column by column, and that sorting a table puts
its rows into the only order that is a stable sort of them.
-/

namespace TimeTable

open Std

variable {t : Table} {c : Column} {keys : List Column} {descending : Bool} {a b n : Nat}
  {rows : List Nat}

namespace Column

/-- Whether a row stands before another one by a column: a missing value stands behind every value, and
of two values the lesser one stands before the other, or the greater one when descending. -/
def Leads (c : Column) (descending : Bool) (a b : Nat) : Prop :=
  c.isNull a = false ∧
    (c.isNull b = true ∨ c.compareRows a b = if descending then .gt else .lt)

instance decidableLeads (c : Column) (descending : Bool) (a b : Nat) :
    Decidable (c.Leads descending a b) :=
  inferInstanceAs (Decidable (_ ∧ _))

lemma sortOrder_eq_lt_iff : c.sortOrder descending a b = .lt ↔ c.Leads descending a b := by
  rw [sortOrder, Leads, compareRows, isNull, isNull]
  cases c.cell a with
  | none => cases c.cell b <;> simp [compareNullsLast]
  | some v =>
    cases c.cell b with
    | none => simp [compareNullsLast]
    | some w => cases descending <;> simp [compareNullsLast, Ordering.swap_eq_lt]

lemma sortOrder_eq_eq_iff : c.sortOrder descending a b = .eq ↔ c.compareRows a b = .eq := by
  rw [sortOrder, compareRows]
  cases c.cell a with
  | none => cases c.cell b <;> simp [compareNullsLast]
  | some v =>
    cases c.cell b with
    | none => simp [compareNullsLast]
    | some w => cases descending <;> simp [compareNullsLast]

end Column

namespace Table

/-- Whether a row may stand in front of another one: the first of the columns in which they differ puts
it before the other, if there is one. -/
def MayPrecede (keys : List Column) (descending : Bool) (a b : Nat) : Prop :=
  match keys with
  | [] => True
  | key :: keys =>
    key.Leads descending a b ∨ key.compareRows a b = .eq ∧ MayPrecede keys descending a b

instance decidableMayPrecede (keys : List Column) (descending : Bool) (a b : Nat) :
    Decidable (MayPrecede keys descending a b) :=
  match keys with
  | [] => inferInstanceAs (Decidable True)
  | key :: keys =>
    have := decidableMayPrecede keys descending a b
    inferInstanceAs
      (Decidable (key.Leads descending a b ∨ key.compareRows a b = .eq ∧ MayPrecede keys descending a b))

/-- Whether two rows are equal in all columns. -/
def Tied (keys : List Column) (a b : Nat) : Prop := ∀ key ∈ keys, key.compareRows a b = .eq

instance decidableTied (keys : List Column) (a b : Nat) : Decidable (Tied keys a b) :=
  inferInstanceAs (Decidable (∀ key ∈ keys, key.compareRows a b = .eq))

lemma isLE_compareByKeys_iff :
    (compareByKeys keys descending a b).isLE ↔ MayPrecede keys descending a b := by
  induction keys with
  | nil => simp [compareByKeys, MayPrecede]
  | cons key keys ih =>
    rw [compareByKeys, MayPrecede, ← Column.sortOrder_eq_lt_iff, ← Column.sortOrder_eq_eq_iff, ← ih]
    cases key.sortOrder descending a b <;> simp

lemma compareByKeys_eq_eq_iff : compareByKeys keys descending a b = .eq ↔ Tied keys a b := by
  induction keys with
  | nil => simp [compareByKeys, Tied]
  | cons key keys ih =>
    rw [compareByKeys, Ordering.then_eq_eq, Column.sortOrder_eq_eq_iff, ih, Tied, Tied,
      List.forall_mem_cons]

/-- Whether the numbers of some rows are a stable sort of a table of a height: all its rows, neighbours
in order, and rows that are equal in all columns in the order in which they stand in the table. -/
structure IsStableSort (keys : List Column) (descending : Bool) (height : Nat) (rows : List Nat) :
    Prop where
  perm : rows.Perm (List.range height)
  sorted : rows.IsChain (MayPrecede keys descending)
  stable : ∀ b < height, ∀ a < b, Tied keys a b → List.Sublist [a, b] rows

/-- As the order is transitive, a stable sort is one in which any two rows stand as they should. -/
lemma isStableSort_iff : IsStableSort keys descending n rows ↔
    rows.Perm (List.range n) ∧ rows.Pairwise (Precedes (compareByKeys keys descending)) := by
  constructor
  · rintro ⟨hperm, hsorted, hstable⟩
    have htrans : Trans (MayPrecede keys descending) (MayPrecede keys descending)
        (MayPrecede keys descending) := by
      refine ⟨fun hab hbd => ?_⟩
      rw [← isLE_compareByKeys_iff] at hab hbd ⊢
      exact TransCmp.isLE_trans hab hbd
    rw [List.isChain_iff_pairwise] at hsorted
    -- A permutation has every row once, so that the order of two rows in it is well defined.
    refine ⟨hperm, pairwise_precedes (hperm.nodup_iff.mpr List.nodup_range) ?_ ?_⟩
    · exact hsorted.imp isLE_compareByKeys_iff.mpr
    · intro a _ b hb hlt heq
      exact hstable b (List.mem_range.mp (hperm.subset hb)) a hlt (compareByKeys_eq_eq_iff.mp heq)
  · rintro ⟨hperm, hsorted⟩
    refine ⟨hperm, (hsorted.imp fun hab => ?_).isChain, ?_⟩
    · rw [← isLE_compareByKeys_iff]
      rcases hab with hlt | ⟨heq, -⟩
      · simp [hlt]
      · simp [heq]
    · intro b hb a hlt htied
      have ha : a ∈ rows := hperm.symm.subset (List.mem_range.mpr (hlt.trans hb))
      have hab : Precedes (compareByKeys keys descending) a b :=
        .inr ⟨compareByKeys_eq_eq_iff.mpr htied, hlt⟩
      exact pair_sublist_of_pairwise hsorted ha (hperm.symm.subset (List.mem_range.mpr hb))
        (Nat.ne_of_lt hlt) hab.asymm

/-- A table is sorted by any of its columns, in either direction, into the one order of its rows that is
a stable sort, and rows are compared by an order that is total and transitive. -/
theorem sort_stable (hkeys : ∀ key ∈ keys, key ∈ t.columns) (descending : Bool) :
    TransCmp (compareByKeys keys descending) ∧
    (∀ a b, (compareByKeys keys descending a b).isLE ↔ MayPrecede keys descending a b) ∧
    ∃ rows, t.sort (keys.map Column.name) descending = .ok (t.take rows) ∧
      ∀ rows', IsStableSort keys descending t.height rows' ↔ rows' = rows := by
  refine ⟨inferInstance, fun _ _ => isLE_compareByKeys_iff,
    sortRows (compareByKeys keys descending) (List.range t.height), ?_, ?_⟩
  · exact sort_eq_ok_iff.mpr ⟨keys, mapM_column_map_name hkeys, rfl⟩
  · intro rows'
    rw [isStableSort_iff, ← sortRows_eq_iff List.pairwise_lt_range, eq_comm]

/-- Missing values, zeros of both signs and rows that are equal in all columns, sorted downwards. -/
theorem sort_stable_downwards :
    let n : Column := ⟨"n", .int64, [some 1, none, some 2, some 1, none]⟩
    let x : Column := ⟨"x", .float64,
      [some .negativeZero, some .nan, none, some .zero, some .nan]⟩
    ∃ t : Table, t.columns = [n, x] ∧ (∀ key ∈ [n, x], key ∈ t.columns) ∧
      IsStableSort [n, x] true t.height [2, 3, 0, 1, 4] ∧
      t.sort ["n", "x"] true = .ok (t.take [2, 3, 0, 1, 4]) := by
  intro n x
  let t : Table :=
    { columns := [n, x]
      sameHeight := by simp [Column.SameHeight, Column.length, n, x]
      distinctNames := by simp [Column.DistinctNames, n, x] }
  have hkeys : ∀ key ∈ [n, x], key ∈ t.columns := fun _ hkey => hkey
  have hsort : IsStableSort [n, x] true t.height [2, 3, 0, 1, 4] :=
    ⟨by decide, by decide, by decide⟩
  obtain ⟨-, -, rows, hrows, hunique⟩ := sort_stable hkeys true
  obtain rfl := (hunique _).mp hsort
  exact ⟨t, rfl, hkeys, hsort, hrows⟩

end Table
end TimeTable
