import Mathlib.Data.List.DropRight
import TimeTable.Proofs.Group.Kept

/-!
# Groups of slices

The rows of the slices of groups stand group by group. So the groups of these rows are the slices that
are not empty, in the same order, and to slice them is to slice each group twice.
-/

namespace TimeTable

namespace GroupSlice

variable {slice : GroupSlice} {rows : List Nat} {m n : Nat}

@[simp] lemma apply_nil (slice : GroupSlice) (m : Nat) : slice.apply [] m = [] := by
  cases slice <;> simp [apply]

lemma length_apply_le (slice : GroupSlice) (rows : List Nat) (m : Nat) :
    (slice.apply rows m).length ≤ m := by
  cases slice with
  | head =>
    rw [apply, List.length_take]
    exact Nat.min_le_left m _
  | tail =>
    rw [apply, List.length_drop]
    omega

lemma apply_of_length_le (h : rows.length ≤ m) : slice.apply rows m = rows := by
  cases slice with
  | head => exact List.take_of_length_le h
  | tail => rw [apply, Nat.sub_eq_zero_of_le h, List.drop_zero]

/-- Of two slices at one end the shorter one is left. -/
lemma apply_apply (slice : GroupSlice) (rows : List Nat) (m n : Nat) :
    slice.apply (slice.apply rows m) n = slice.apply rows (min m n) := by
  cases slice with
  | head => rw [apply, apply, apply, List.take_take, Nat.min_comm]
  | tail =>
    show (rows.rtake m).rtake n = rows.rtake (min m n)
    simp only [List.rtake_eq_reverse_take_reverse, List.reverse_reverse, List.take_take, Nat.min_comm]

/-- A slice that is long enough leaves a slice as it is. -/
lemma apply_apply_of_le (h : m ≤ n) (slice' : GroupSlice) :
    slice'.apply (slice.apply rows m) n = slice.apply rows m :=
  apply_of_length_le ((slice.length_apply_le rows m).trans h)

end GroupSlice

namespace GroupIndex

variable {same same' : Nat → Nat → Bool} {blocks : List (List Nat)} {rows : List Nat} {m n : Nat}
  {slice slice' : GroupSlice}

/-- If equal rows stand together then their classes are the blocks in which they stand. -/
lemma classesAmong_flatten (hequal : ∀ block ∈ blocks, ∀ a ∈ block, ∀ b ∈ block, same a b = true)
    (hdiffers : blocks.Pairwise fun block block' => ∀ a ∈ block, ∀ b ∈ block', same a b = false) :
    classesAmong same blocks.flatten = blocks.filter fun block => !block.isEmpty := by
  induction hdiffers with
  | nil => simp
  -- Each block is one class, as its rows are like its first row and no later ones are.
  | @cons block blocks hblock _ ih =>
    rw [List.forall_mem_cons] at hequal
    have hrest := ih hequal.2
    cases block with
    | nil => exact hrest
    | cons row rows =>
      have hin : ∀ other ∈ rows, same row other = true := fun other hother =>
        hequal.1 row List.mem_cons_self other (List.mem_cons_of_mem _ hother)
      have hout : ∀ other ∈ blocks.flatten, same row other = false := by
        intro other hother
        obtain ⟨block, hmem, hother⟩ := List.mem_flatten.mp hother
        exact hblock block hmem row List.mem_cons_self other hother
      have hclass : (rows ++ blocks.flatten).filter (same row) = rows := by
        rw [List.filter_append, List.filter_eq_self.mpr hin,
          List.filter_eq_nil_iff.mpr fun other hother => by simp [hout other hother], List.append_nil]
      have hunlike : unlike same row (rows ++ blocks.flatten) = blocks.flatten := by
        rw [unlike, List.filter_append,
          List.filter_eq_nil_iff.mpr fun other hother => by simp [hin other hother], List.nil_append,
          List.filter_eq_self.mpr fun other hother => by simp [hout other hother]]
      rw [List.flatten_cons, List.cons_append, classesAmong_cons, hclass, hunlike, hrest]
      rfl

section Equivalence

variable (heq : Equivalence fun a b => same a b = true)
include heq

lemma same_of_mem_classes {group : List Nat} (hgroup : group ∈ classes same n) :
    ∀ a ∈ group, ∀ b ∈ group, same a b = true := by
  obtain ⟨first, -, rfl⟩ := List.mem_map.mp hgroup
  intro a ha b hb
  exact heq.trans (heq.symm (mem_classOf.mp ha).2) (mem_classOf.mp hb).2

lemma pairwise_classes : (classes same n).Pairwise fun group group' =>
    ∀ a ∈ group, ∀ b ∈ group', same a b = false := by
  rw [classes, List.pairwise_map]
  refine firsts_ascending.imp_of_mem ?_
  intro first first' hfirst hfirst' hlt a ha b hb
  rw [Bool.eq_false_iff]
  intro hsame
  have hab : same first first' = true :=
    heq.trans (mem_classOf.mp ha).2 (heq.trans hsame (heq.symm (mem_classOf.mp hb).2))
  exact Nat.ne_of_lt hlt (first_unique heq hfirst hfirst' hab)

/-- The classes among the rows of slices are the slices. -/
lemma classesAmong_selectRows (slice : GroupSlice) (m : Nat) :
    classesAmong same (slice.selectRows ⟨classes same n, n⟩ m) =
      ((classes same n).map (slice.apply · m)).filter fun rows => !rows.isEmpty := by
  rw [GroupSlice.selectRows, List.flatMap_def]
  apply classesAmong_flatten
  · rw [List.forall_mem_map]
    intro group hgroup a ha b hb
    exact same_of_mem_classes heq hgroup a ((slice.apply_sublist group m).subset ha) b
      ((slice.apply_sublist group m).subset hb)
  · rw [List.pairwise_map]
    refine (pairwise_classes heq).imp fun {group group'} h a ha b hb => ?_
    exact h a ((slice.apply_sublist group m).subset ha) b ((slice.apply_sublist group' m).subset hb)

/-- Slices of the groups that the rows of slices have are slices of slices. -/
lemma map_selectRows_selectRows (heq' : Equivalence fun a b => same' a b = true)
    (hrows : rows = slice.selectRows ⟨classes same n, n⟩ m)
    (hsame : ∀ a < rows.length, ∀ b < rows.length,
      same' a b = same (rows.getD a 0) (rows.getD b 0)) (slice' : GroupSlice) (k : Nat) :
    (slice'.selectRows ⟨classes same' rows.length, rows.length⟩ k).map (rows.getD · 0) =
      (classes same n).flatMap fun group => slice'.apply (slice.apply group m) k := by
  have hnumber := map_classesAmong fun a ha b hb =>
    hsame a (List.mem_range.mp ha) b (List.mem_range.mp hb)
  rw [← classes_eq_classesAmong heq', map_getD_range, hrows, classesAmong_selectRows heq, ← hrows]
    at hnumber
  have hslices : (slice'.selectRows ⟨classes same' rows.length, rows.length⟩ k).map (rows.getD · 0) =
      (((classes same n).map (slice.apply · m)).filter fun rows => !rows.isEmpty).flatMap
        (slice'.apply · k) := by
    rw [← hnumber, GroupSlice.selectRows, List.map_flatMap, List.flatMap_map]
    simp only [GroupSlice.map_apply]
  -- A slice that is empty has no rows to give.
  rw [hslices, flatMap_filter, List.flatMap_map]
  refine List.flatMap_congr fun group _ => ?_
  cases slice.apply group m with
  | nil => simp
  | cons row rows => rfl

end Equivalence
end GroupIndex
end TimeTable
