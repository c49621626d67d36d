import Mathlib.Data.List.Nodup
import Mathlib.Data.List.Perm.Subperm
import TimeTable.Group.Index
import TimeTable.Proofs.Failure

/-!
# The partition check

The check of an index passes if and only if no group is empty and the groups hold every row once and
nothing else. What it fails with is wrong with the groups.
-/

namespace TimeTable.GroupIndex

variable {n : Nat} {seen seen' : List Nat}

/-- Rows pass if they are rows and stay distinct together with those seen before. -/
lemma checkRows_eq_ok_iff {rows : List Nat} (hseen : seen.Nodup) :
    checkRows n seen rows = .ok seen' ↔
      seen' = rows.reverse ++ seen ∧ seen'.Nodup ∧ ∀ row ∈ rows, row < n := by
  -- What was seen grows from step to step, so it is general in the induction.
  induction rows generalizing seen with
  | nil =>
    simp only [checkRows, Except.ok.injEq]
    constructor
    · rintro rfl
      exact ⟨rfl, hseen, by simp⟩
    · rintro ⟨rfl, _, _⟩
      rfl
  | cons row rows ih =>
    have hsplit : (row :: rows).reverse ++ seen = rows.reverse ++ row :: seen := by simp
    rw [checkRows, hsplit, List.forall_mem_cons]
    split
    · next hstray =>
      simp only [reduceCtorEq, false_iff]
      rintro ⟨_, _, hlt, _⟩
      exact Nat.not_lt.mpr hstray hlt
    · next hrow =>
      split
      · next hmem =>
        simp only [reduceCtorEq, false_iff]
        rintro ⟨rfl, hnodup, _⟩
        exact (List.nodup_cons.mp (List.nodup_append.mp hnodup).2.1).1 hmem
      · next hnew =>
        rw [ih (List.nodup_cons.mpr ⟨hnew, hseen⟩)]
        simp only [Nat.lt_of_not_le hrow, true_and]

/-- Groups pass if none is empty and their rows pass. -/
lemma checkGroups_eq_ok_iff {groups : List (List Nat)} (hseen : seen.Nodup) :
    checkGroups n seen groups = .ok seen' ↔
      (∀ group ∈ groups, group ≠ []) ∧ seen' = groups.flatten.reverse ++ seen ∧ seen'.Nodup ∧
        ∀ row ∈ groups.flatten, row < n := by
  induction groups generalizing seen with
  | nil =>
    simp only [checkGroups, Except.ok.injEq]
    constructor
    · rintro rfl
      exact ⟨by simp, rfl, hseen, by simp⟩
    · rintro ⟨_, rfl, _, _⟩
      rfl
  | cons group groups ih =>
    cases group with
    | nil => simp [checkGroups]
    | cons row rows =>
      rw [checkGroups, bind_eq_ok, List.forall_mem_cons]
      simp only [List.flatten_cons, List.forall_mem_append, List.reverse_append, List.append_assoc]
      constructor
      · rintro ⟨between, hrows, hgroups⟩
        obtain ⟨rfl, hnodup, hlt⟩ := (checkRows_eq_ok_iff hseen).mp hrows
        obtain ⟨hne, hseen', hnodup', hlt'⟩ := (ih hnodup).mp hgroups
        exact ⟨⟨by simp, hne⟩, hseen', hnodup', hlt, hlt'⟩
      · rintro ⟨⟨_, hne⟩, rfl, hnodup, hlt, hlt'⟩
        have hrows : ((row :: rows).reverse ++ seen).Nodup := (List.nodup_append.mp hnodup).2.1
        exact ⟨_, (checkRows_eq_ok_iff hseen).mpr ⟨rfl, hrows, hlt⟩,
          (ih hrows).mpr ⟨hne, rfl, hnodup, hlt'⟩⟩

/-- Distinct rows, all of them among the first ones, are as many as these only if they are all of
them. -/
lemma perm_range_iff {rows : List Nat} :
    rows.Perm (List.range n) ↔ rows.Nodup ∧ (∀ row ∈ rows, row < n) ∧ rows.length = n := by
  constructor
  · intro hperm
    refine ⟨hperm.nodup_iff.mpr List.nodup_range, ?_, ?_⟩
    · intro row hrow
      exact List.mem_range.mp (hperm.mem_iff.mp hrow)
    · rw [hperm.length_eq, List.length_range]
  · rintro ⟨hnodup, hlt, hlength⟩
    have hsub : rows.Subperm (List.range n) :=
      hnodup.subperm fun row hrow => List.mem_range.mpr (hlt row hrow)
    exact hsub.perm_of_length_le (by simp [hlength])

/-- The check passes for partitions only. -/
lemma verifyPartition_eq_ok_iff {index : GroupIndex} :
    index.verifyPartition n = .ok () ↔
      (∀ group ∈ index.groups, group ≠ []) ∧ index.groups.flatten.Perm (List.range n) := by
  rw [verifyPartition, bind_eq_ok, perm_range_iff]
  simp only [checkGroups_eq_ok_iff List.nodup_nil, List.append_nil]
  constructor
  · rintro ⟨seen, ⟨hne, rfl, hnodup, hlt⟩, hlength⟩
    rw [List.length_reverse] at hlength
    split at hlength
    · next heq => exact ⟨hne, List.nodup_reverse.mp hnodup, hlt, heq⟩
    · cases hlength
  · rintro ⟨hne, hnodup, hlt, hlength⟩
    refine ⟨_, ⟨hne, rfl, List.nodup_reverse.mpr hnodup, hlt⟩, ?_⟩
    rw [List.length_reverse, if_pos hlength]

/-- That the groups are a partition of the first rows: none is empty, each of the rows occurs once in all
of them, and no other row does. -/
structure IsPartition (index : GroupIndex) (n : Nat) : Prop where
  nonempty : ∀ group ∈ index.groups, group ≠ []
  once : ∀ row < n, index.groups.flatten.count row = 1
  only : ∀ row ∈ index.groups.flatten, row < n

lemma isPartition_iff {index : GroupIndex} :
    index.IsPartition n ↔
      (∀ group ∈ index.groups, group ≠ []) ∧ index.groups.flatten.Perm (List.range n) := by
  constructor
  · intro h
    refine ⟨h.nonempty, List.perm_iff_count.mpr fun row => ?_⟩
    rw [List.count_range]
    split
    · next hlt => exact h.once row hlt
    · next hlt => exact List.count_eq_zero.mpr fun hrow => hlt (h.only row hrow)
  · rintro ⟨hne, hperm⟩
    refine ⟨hne, fun row hlt => ?_, fun row hrow => List.mem_range.mp (hperm.mem_iff.mp hrow)⟩
    rw [hperm.count_eq, List.count_range, if_pos hlt]

/-- What is wrong with groups, as the faults of the check say it. -/
inductive Defect (n : Nat) (groups : List (List Nat)) : Fault → Prop
  | empty : [] ∈ groups → Defect n groups .emptyGroup
  | stray {row : Nat} : row ∈ groups.flatten → n ≤ row → Defect n groups (.strayRow row n)
  | repeated {row : Nat} : 1 < groups.flatten.count row → Defect n groups (.repeatedRow row)
  | uncovered : groups.flatten.length < n →
      Defect n groups (.uncoveredRows groups.flatten.length n)

lemma Defect.kind_eq {groups : List (List Nat)} {fault : Fault} (h : Defect n groups fault) :
    fault.kind = .keyInconsistency := by
  cases h <;> rfl

variable {groups : List (List Nat)}

/-- Rows among those of the groups fail only with a defect of the groups, when all rows before them have
been seen. -/
lemma checkRows_failsWith {before rows : List Nat} (after : List Nat)
    (hsplit : groups.flatten = before ++ rows ++ after) :
    FailsWith (Defect n groups) (checkRows n before.reverse rows) := by
  -- Everything before the row has been seen and nothing behind it, so the split moves along.
  induction rows generalizing before with
  | nil => exact .ok _
  | cons row rows ih =>
    rw [checkRows]
    split
    · next hstray => exact .error (.stray (by simp [hsplit]) hstray)
    · split
      · next hmem =>
        refine .error (.repeated ?_)
        have hbefore : 0 < before.count row := List.count_pos_iff.mpr (List.mem_reverse.mp hmem)
        simp only [hsplit, List.count_append, List.count_cons_self]
        omega
      · have hnext : (before ++ [row]).reverse = row :: before.reverse := by simp
        rw [← hnext]
        exact ih (by simp [hsplit])

/-- Groups fail only with a defect of all groups, when those before them have passed. -/
lemma checkGroups_failsWith (done : List (List Nat)) (hdone : done.flatten.reverse.Nodup) :
    FailsWith (Defect n (done ++ groups)) (checkGroups n done.flatten.reverse groups) := by
  induction groups generalizing done with
  | nil => exact .ok _
  | cons group groups ih =>
    cases group with
    | nil => exact .error (.empty (by simp))
    | cons row rows =>
      rw [checkGroups]
      -- The rows that are seen after a group are those of the groups up to it, so the fault is one of all
      -- groups.
      refine (checkRows_failsWith groups.flatten (by simp)).bind fun seen hrows => ?_
      obtain ⟨rfl, hnodup, -⟩ := (checkRows_eq_ok_iff hdone).mp hrows
      have hnext : (row :: rows).reverse ++ done.flatten.reverse =
          (done ++ [row :: rows]).flatten.reverse := by simp
      rw [hnext] at hnodup ⊢
      simpa using ih _ hnodup

lemma verifyPartition_failsWith (index : GroupIndex) (n : Nat) :
    FailsWith (Defect n index.groups) (index.verifyPartition n) := by
  have hgroups : FailsWith (Defect n index.groups) (checkGroups n [] index.groups) :=
    checkGroups_failsWith [] List.nodup_nil
  refine hgroups.bind fun seen hseen => ?_
  obtain ⟨-, rfl, hnodup, hlt⟩ := (checkGroups_eq_ok_iff List.nodup_nil).mp hseen
  rw [List.append_nil] at hnodup ⊢
  rw [List.length_reverse]
  split
  · exact .ok ()
  · next hlength =>
    -- Distinct rows are not more than all rows.
    have hsub : index.groups.flatten.Subperm (List.range n) :=
      (List.nodup_reverse.mp hnodup).subperm fun row hrow => List.mem_range.mpr (hlt row hrow)
    have hle : index.groups.flatten.length ≤ n := by simpa using hsub.length_le
    exact .error (.uncovered (by omega))

/-- The check passes for partitions and for nothing else, and what it fails with otherwise is an
inconsistency of keys that the groups have. -/
theorem verifyPartition_iff_isPartition (index : GroupIndex) (n : Nat) :
    (index.verifyPartition n = .ok () ↔ index.IsPartition n) ∧
    ((∃ fault, index.verifyPartition n = .error fault ∧ fault.kind = .keyInconsistency ∧
      Defect n index.groups fault) ↔ ¬ index.IsPartition n) := by
  have hok : index.verifyPartition n = .ok () ↔ index.IsPartition n :=
    verifyPartition_eq_ok_iff.trans isPartition_iff.symm
  refine ⟨hok, ?_⟩
  rw [← hok]
  constructor
  · rintro ⟨fault, hfault, -⟩ h
    exact nomatch hfault.symm.trans h
  · intro hne
    cases hresult : index.verifyPartition n with
    | ok => exact absurd hresult hne
    | error fault =>
      have hdefect := verifyPartition_failsWith index n fault hresult
      exact ⟨fault, rfl, hdefect.kind_eq, hdefect⟩

/-- Groups with a hole, a row in two of them and a row behind the last one: the first defect is told. -/
example : (GroupIndex.mk [[0, 3], [3], [7]] 4).verifyPartition 4 = .error (.repeatedRow 3) := rfl

end TimeTable.GroupIndex
