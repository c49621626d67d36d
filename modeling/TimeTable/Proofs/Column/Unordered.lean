import TimeTable.Expr.Eval
import TimeTable.Proofs.Column.Reductions
import TimeTable.Proofs.Group.Reordered

namespace TimeTable

open Std

/-- Whether a reduction gives the same value for rows in any order. -/
def Reducer.ignoresOrder : Reducer → Bool
  | min | max | count | len | nUnique => true
  | _ => false

namespace Column

variable {c : Column} {rows : List Nat} {func : Reducer}

section Extremes

variable {α : Type} {order : α → α → Ordering} [TransCmp order] {best : α} {vs vs' : List α}

lemma isLE_of_ne_lt {v w : α} (h : order w v ≠ .lt) : (order v w).isLE := by
  rw [← OrientedCmp.isGE_eq_isLE]
  exact Ordering.isGE_iff_ne_lt.mpr h

/-- Of some values, the one that is left when the lesser of two is kept is not greater than any. -/
lemma foldl_least (order : α → α → Ordering) [TransCmp order] (v : α) (vs : List α) :
    let best := vs.foldl (fun best w => if order w best == .lt then w else best) v
    best ∈ v :: vs ∧ ∀ w ∈ v :: vs, (order best w).isLE := by
  -- The best so far is general in the induction: behind it the fold starts from the better of two values.
  induction vs generalizing v with
  | nil =>
    have hself : (order v v).isLE := ReflCmp.isLE_rfl
    exact ⟨List.mem_cons_self, List.forall_mem_singleton.mpr hself⟩
  | cons w vs ih =>
    intro best
    by_cases hlt : order w v = .lt
    · obtain ⟨hmem, hle⟩ := ih w
      have hbest : best = vs.foldl (fun best w => if order w best == .lt then w else best) w := by
        simp [best, hlt]
      rw [← hbest] at hmem hle
      have hw : (order w v).isLE := by rw [hlt]; rfl
      have hv : (order best v).isLE := TransCmp.isLE_trans (hle w List.mem_cons_self) hw
      exact ⟨List.mem_cons_of_mem _ hmem, List.forall_mem_cons.mpr ⟨hv, hle⟩⟩
    · obtain ⟨hmem, hle⟩ := ih v
      have hbest : best = vs.foldl (fun best w => if order w best == .lt then w else best) v := by
        simp [best, hlt]
      rw [← hbest] at hmem hle
      rw [List.forall_mem_cons] at hle
      have hw : (order best w).isLE := TransCmp.isLE_trans hle.1 (isLE_of_ne_lt hlt)
      refine ⟨?_, List.forall_mem_cons.mpr ⟨hle.1, List.forall_mem_cons.mpr ⟨hw, hle.2⟩⟩⟩
      rcases List.mem_cons.mp hmem with heq | hmem
      · exact heq ▸ List.mem_cons_self
      · exact List.mem_cons_of_mem _ (List.mem_cons_of_mem _ hmem)

variable (hinj : ∀ v w, order v w = .eq → v = w)
include hinj

/-- The value that comes first is the one of the values that is not greater than any. -/
lemma firstBy_eq_some_iff :
    firstBy (fun v w => order v w == .lt) vs = some best ↔
      best ∈ vs ∧ ∀ w ∈ vs, (order best w).isLE := by
  cases vs with
  | nil => simp [firstBy]
  | cons v vs =>
    obtain ⟨hmem, hle⟩ := foldl_least order v vs
    rw [firstBy, Option.some.injEq]
    constructor
    · rintro rfl
      exact ⟨hmem, hle⟩
    · rintro ⟨hmem', hle'⟩
      exact hinj _ _ (OrientedCmp.isLE_antisymm (hle best hmem') (hle' _ hmem))

lemma firstBy_perm (h : vs.Perm vs') :
    firstBy (fun v w => order v w == .lt) vs = firstBy (fun v w => order v w == .lt) vs' := by
  ext best
  simp only [firstBy_eq_some_iff hinj, h.mem_iff]

end Extremes

/-- What a reduction to an extreme looks for comes first in a direction. -/
lemma beq_wanted_eq_directed (c : Column) (descending : Bool) :
    (fun v w => c.dtype.compareCells v w == if descending then .gt else .lt) =
      fun v w => c.directed descending v w == .lt := by
  funext v w
  cases descending with
  | false => rfl
  | true =>
    simp only [directed, if_true]
    cases c.dtype.compareCells v w <;> rfl

/-- The extreme of a column without lists is the value that comes first in a direction. -/
lemma extreme_eq_directed (hlist : c.dtype.isList = false) (descending : Bool) (func : Reducer) :
    c.extreme (if descending then .gt else .lt) func = .ok (c.dtype.toScalarOrNull
      (firstBy (fun v w => c.directed descending v w == .lt) (c.cells.filterMap id))) := by
  rw [← beq_wanted_eq_directed]
  exact extreme_eq_ok hlist

/-- Values have one extreme, in whatever order they come. -/
lemma extreme_perm {cells : List (Option c.dtype.Cell)} (descending : Bool)
    (h : cells.Perm c.cells) :
    extreme (if descending then .gt else .lt) func ⟨c.name, c.dtype, cells⟩ =
      c.extreme (if descending then .gt else .lt) func := by
  cases hlist : c.dtype.isList with
  | true => rw [extreme_eq_error hlist, extreme_eq_error (c := ⟨c.name, c.dtype, cells⟩) hlist]
  | false =>
    rw [extreme_eq_directed hlist, extreme_eq_directed (c := ⟨c.name, c.dtype, cells⟩) hlist]
    exact congrArg (fun best => Except.ok (c.dtype.toScalarOrNull best))
      (firstBy_perm (fun _ _ => eq_of_directed hlist) (h.filterMap id))

section Permuted

variable (hrows : rows.Perm (List.range c.length))
include hrows

lemma cells_take_perm : (c.take rows).cells.Perm c.cells := by
  rw [cells_take]
  conv_rhs => rw [cells_eq_map_cell]
  exact hrows.map _

lemma length_take_of_perm : (c.take rows).length = c.length := by
  rw [length_take, hrows.length_eq, List.length_range]

lemma extreme_take_of_perm (descending : Bool) :
    (c.take rows).extreme (if descending then .gt else .lt) func =
      c.extreme (if descending then .gt else .lt) func := by
  have hcells := cells_take_perm hrows
  rw [cells_take] at hcells
  rw [take_eq]
  exact extreme_perm descending hcells

lemma nullCount_take_of_perm : (c.take rows).nullCount = c.nullCount :=
  (cells_take_perm hrows).countP_eq _

lemma countUnique_take_of_perm : (c.take rows).countUnique = c.countUnique := by
  obtain ⟨places, hplaces⟩ := GroupIndex.exists_reorders_classes hrows (sameRow_equivalence [c])
    (sameRow_equivalence ([c].map (·.take rows))) fun a ha b hb => sameRow_take ha hb
  have hlength := hplaces.length_groups
  rw [countUnique_eq, countUnique_eq, length_take]
  rw [List.map_singleton] at hlength
  rw [hlength]

/-- Reductions that ignore the order of rows give the same value on rows in another order. -/
lemma reduce_take_of_perm (hfunc : func.ignoresOrder) : (c.take rows).reduce func = c.reduce func := by
  cases func with
  | min => exact extreme_take_of_perm hrows false
  | max => exact extreme_take_of_perm hrows true
  | count => rw [reduce, reduce, length_take_of_perm hrows, nullCount_take_of_perm hrows]
  | len => rw [reduce, reduce, length_take_of_perm hrows]
  | nUnique => exact countUnique_take_of_perm hrows
  | _ => exact absurd hfunc Bool.false_ne_true

lemma reduced_take_of_perm (hfunc : func.ignoresOrder) :
    (c.take rows).reduced func = c.reduced func := by
  rw [reduced, reduce_take_of_perm hrows hfunc]
  rfl

end Permuted
end Column
end TimeTable
