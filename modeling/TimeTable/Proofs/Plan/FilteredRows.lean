import TimeTable.Proofs.Plan.Filter
import TimeTable.Proofs.Table.Sorting

namespace TimeTable

variable {t out : Table} {p q : Expr} {c d : Column} {names : List String} {descending : Bool}

namespace Table

/-- Sorting and filtering gives the rows that are kept of the sorted ones. -/
lemma exists_sort_filter_iff (hp : p.isRowwise) :
    (∃ u, t.sort names descending = .ok u ∧ u.filter p = .ok out) ↔
      ∃ keys c, names.mapM t.column = .ok keys ∧ p.evaluate t = .ok c ∧ c.IsMask ∧
        out = t.take ((sortRows (compareByKeys keys descending) (List.range t.height)).filter
          (p.holdsAt c)) := by
  simp only [sort_eq_ok_iff]
  constructor
  · rintro ⟨_, ⟨keys, hkeys, rfl⟩, hfilter⟩
    have hsorted := sortRows_perm (compareByKeys keys descending) (List.range t.height)
    -- What the predicate has on the sorted rows it has on the rows as they were.
    obtain ⟨_, hd, -⟩ := filter_eq_ok_iff.mp hfilter
    obtain ⟨c, hc, -⟩ := Expr.exists_evaluate_of_perm hp hsorted hd
    rw [filter_take_eq_ok_iff hp (fun _ => lt_of_mem_of_perm hsorted) hc] at hfilter
    exact ⟨keys, c, hkeys, hc, hfilter⟩
  · rintro ⟨keys, c, hkeys, hc, hfilter⟩
    have hsorted := sortRows_perm (compareByKeys keys descending) (List.range t.height)
    refine ⟨_, ⟨keys, hkeys, rfl⟩, ?_⟩
    rw [filter_take_eq_ok_iff hp (fun _ => lt_of_mem_of_perm hsorted) hc]
    exact hfilter

/-- Filtering and sorting gives the same rows. -/
lemma exists_filter_sort_iff :
    (∃ u, t.filter p = .ok u ∧ u.sort names descending = .ok out) ↔
      ∃ keys c, names.mapM t.column = .ok keys ∧ p.evaluate t = .ok c ∧ c.IsMask ∧
        out = t.take ((sortRows (compareByKeys keys descending) (List.range t.height)).filter
          (p.holdsAt c)) := by
  simp only [filter_eq_ok_iff]
  -- The sort is stable, and so the kept rows keep their order when the others are left out.
  have hsort : ∀ (keys : List Column) c, sortRows (compareByKeys keys descending) (t.keptRows p c) =
      (sortRows (compareByKeys keys descending) (List.range t.height)).filter (p.holdsAt c) :=
    fun _ c => sortRows_filter List.pairwise_lt_range (p.holdsAt c)
  constructor
  · rintro ⟨_, ⟨c, hc, hmask, rfl⟩, hsorted⟩
    obtain ⟨keys, hkeys, rfl⟩ := (sort_take_eq_ok_iff fun _ => lt_of_mem_keptRows).mp hsorted
    exact ⟨keys, c, hkeys, hc, hmask, by rw [hsort]⟩
  · rintro ⟨keys, c, hkeys, hc, hmask, rfl⟩
    refine ⟨_, ⟨c, hc, hmask, rfl⟩, (sort_take_eq_ok_iff fun _ => lt_of_mem_keptRows).mpr ?_⟩
    exact ⟨keys, hkeys, by rw [hsort]⟩

/-- Filtering twice gives the rows in which both predicates hold. -/
lemma exists_filter_filter (hq : q.isRowwise) (hc : p.evaluate t = .ok c) (hpmask : c.IsMask)
    (hd : q.evaluate t = .ok d) (hqmask : d.IsMask) :
    ∃ u, t.filter p = .ok u ∧ u.filter q = .ok (t.take ((List.range t.height).filter fun row =>
      p.holdsAt c row && q.holdsAt d row)) := by
  refine ⟨_, filter_eq_ok_iff.mpr ⟨c, hc, hpmask, rfl⟩, ?_⟩
  rw [filter_take_eq_ok_iff hq (fun _ => lt_of_mem_keptRows) hd, keptRows, List.filter_filter]
  refine ⟨hqmask, ?_⟩
  simp only [Bool.and_comm]

end Table

namespace Plan

variable {input : Plan}

/-- A filter without reductions can be moved past a sort: the one order of steps gives a table if and
only if the other does, and it is the same table. It can also be moved past another such filter, if both
predicates give truth values, or no values at all, on the table. -/
theorem filter_comm (hp : p.isRowwise) :
    (∀ names descending out, (Plan.filter (.sort input names descending) p).run = .ok out ↔
      (Plan.sort (.filter input p) names descending).run = .ok out) ∧
    ∀ t q c d, input.run = .ok t → q.isRowwise → p.evaluate t = .ok c → c.IsMask →
      q.evaluate t = .ok d → d.IsMask →
        ∃ out, (Plan.filter (.filter input p) q).run = .ok out ∧
          (Plan.filter (.filter input q) p).run = .ok out := by
  constructor
  · intro names descending out
    -- On one table both orders come down to the kept rows in sorted order.
    have hcomm : ∀ t : Table, (∃ u, t.sort names descending = .ok u ∧ u.filter p = .ok out) ↔
        ∃ u, t.filter p = .ok u ∧ u.sort names descending = .ok out :=
      fun t => (Table.exists_sort_filter_iff hp).trans Table.exists_filter_sort_iff.symm
    constructor
    · intro h
      obtain ⟨s, hs, hout⟩ := run_filter_eq_ok_iff.mp h
      obtain ⟨t, ht, hsort⟩ := run_sort_eq_ok_iff.mp hs
      obtain ⟨u, hu, hout⟩ := (hcomm t).mp ⟨s, hsort, hout⟩
      exact run_sort_eq_ok_iff.mpr ⟨u, run_filter_eq_ok_iff.mpr ⟨t, ht, hu⟩, hout⟩
    · intro h
      obtain ⟨u, hu, hout⟩ := run_sort_eq_ok_iff.mp h
      obtain ⟨t, ht, hfilter⟩ := run_filter_eq_ok_iff.mp hu
      obtain ⟨s, hs, hout⟩ := (hcomm t).mpr ⟨u, hfilter, hout⟩
      exact run_filter_eq_ok_iff.mpr ⟨s, run_sort_eq_ok_iff.mpr ⟨t, ht, hs⟩, hout⟩
  · intro t q c d ht hq hc hcmask hd hdmask
    obtain ⟨u, hu, hpq⟩ := Table.exists_filter_filter hq hc hcmask hd hdmask
    obtain ⟨v, hv, hqp⟩ := Table.exists_filter_filter hp hd hdmask hc hcmask
    have hboth : (fun row => q.holdsAt d row && p.holdsAt c row) =
        fun row => p.holdsAt c row && q.holdsAt d row :=
      funext fun row => Bool.and_comm _ _
    rw [hboth] at hqp
    exact ⟨_, run_filter_eq_ok_iff.mpr ⟨u, run_filter_eq_ok_iff.mpr ⟨t, ht, hu⟩, hpq⟩,
      run_filter_eq_ok_iff.mpr ⟨v, run_filter_eq_ok_iff.mpr ⟨t, ht, hv⟩, hqp⟩⟩

/-- A mask with a missing value, and a number that is compared, before and after a sort with ties. -/
theorem filter_comm_ties :
    let p : Expr := .col "b"
    let q : Expr := .compare (.col "n") .gt (.lit (.int64 0))
    ∃ t sorted both : Table, t.columns = [⟨"n", .int64, [some 1, none, some 2, some 1, some 0]⟩,
        ⟨"b", .boolean, [some true, some true, some true, some true, none]⟩] ∧
      p.isRowwise ∧ q.isRowwise ∧
      p.evaluate t = .ok ⟨"b", .boolean, [some true, some true, some true, some true, none]⟩ ∧
      q.evaluate t = .ok ⟨"n", .boolean, [some true, none, some true, some true, some false]⟩ ∧
      sorted.columns = [⟨"n", .int64, [some 2, some 1, some 1, none]⟩,
        ⟨"b", .boolean, [some true, some true, some true, some true]⟩] ∧
      (Plan.filter (.sort (.scan t) ["n"] true) p).run = .ok sorted ∧
      (Plan.sort (.filter (.scan t) p) ["n"] true).run = .ok sorted ∧
      (Plan.filter (.filter (.scan t) p) q).run = .ok both ∧
      (Plan.filter (.filter (.scan t) q) p).run = .ok both := by
  intro p q
  let t : Table :=
    { columns := [⟨"n", .int64, [some 1, none, some 2, some 1, some 0]⟩,
        ⟨"b", .boolean, [some true, some true, some true, some true, none]⟩]
      sameHeight := by simp [Column.SameHeight, Column.length]
      distinctNames := by simp [Column.DistinctNames] }
  have hp : p.isRowwise := rfl
  have hq : q.isRowwise := rfl
  have hpt : p.evaluate t =
      .ok ⟨"b", .boolean, [some true, some true, some true, some true, none]⟩ := rfl
  have hqt : q.evaluate t =
      .ok ⟨"n", .boolean, [some true, none, some true, some true, some false]⟩ := rfl
  obtain ⟨hsort, hfilter⟩ := @filter_comm p (.scan t) hp
  obtain ⟨both, hpq, hqp⟩ := hfilter t q _ _ rfl hq hpt (.inl rfl) hqt (.inl rfl)
  have hrows : sortRows (Table.compareByKeys
      [⟨"n", .int64, [some 1, none, some 2, some 1, some 0]⟩] true) [0, 1, 2, 3] = [2, 0, 3, 1] :=
    (sortRows_eq_iff (by decide)).mpr ⟨by decide, by decide⟩
  have hsorted : (Plan.sort (.filter (.scan t) p) ["n"] true).run = .ok (t.take [2, 0, 3, 1]) := by
    refine run_sort_eq_ok_iff.mpr ⟨t.take [0, 1, 2, 3], rfl, ?_⟩
    exact (Table.sort_take_eq_ok_iff (by decide)).mpr
      ⟨[⟨"n", .int64, [some 1, none, some 2, some 1, some 0]⟩], rfl, by rw [hrows]⟩
  exact ⟨t, _, both, rfl, hp, hq, hpt, hqt, rfl, (hsort ["n"] true _).mpr hsorted, hsorted, hpq, hqp⟩

end Plan
end TimeTable
