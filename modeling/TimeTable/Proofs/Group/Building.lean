import TimeTable.Proofs.Group.Classes
import TimeTable.Proofs.Key

/-!
# Building groups

The search for the group of a row among the groups of its hash finds the group of its key, whatever the
hash is, as long as equal rows have equal hashes. What is kept from row to row is that the groups are
the classes of the rows so far and that each hash leads to exactly the groups whose first row has it.
-/

namespace TimeTable.GroupIndex

variable {rowHash : Nat → UInt64} {same : Nat → Nat → Bool} {n : Nat} {b : Builder}

@[simp] lemma Growing.first_push (g : Growing) (row : Nat) : (g.push row).first = g.first := rfl

@[simp] lemma Growing.rows_push (g : Growing) (row : Nat) : (g.push row).rows = g.rows ++ [row] := by
  simp [rows, push]

/-- The groups in the making when the first rows have been put into them. -/
structure Builder.Sorted (rowHash : Nat → UInt64) (same : Nat → Nat → Bool) (n : Nat)
    (b : Builder) : Prop where
  first_eq : ∀ place : Nat, (b.groups[place]?).map Growing.first = (firsts same n)[place]?
  rows_eq : ∀ (place : Nat) g, b.groups[place]? = some g → g.rows = classOf same n g.first
  mem_places : ∀ hash (place : Nat), place ∈ b.places.getD hash [] ↔
    ∃ g, b.groups[place]? = some g ∧ rowHash g.first = hash

namespace Builder.Sorted

lemma empty : Sorted rowHash same 0 Builder.empty where
  first_eq place := by simp [Builder.empty, firsts]
  rows_eq place g hg := by simp [Builder.empty] at hg
  mem_places hash place := by simp [Builder.empty]

/-- The first row of a group in the making is a first row. -/
lemma first_mem (h : Sorted rowHash same n b) {place : Nat} {g : Growing}
    (hg : b.groups[place]? = some g) : g.first ∈ firsts same n := by
  have hfirst := h.first_eq place
  rw [hg, Option.map_some] at hfirst
  exact List.mem_of_getElem? hfirst.symm

/-- Every first row begins a group in the making. -/
lemma exists_group (h : Sorted rowHash same n b) {first : Nat} (hfirst : first ∈ firsts same n) :
    ∃ (place : Nat) (g : Growing), b.groups[place]? = some g ∧ g.first = first := by
  obtain ⟨place, hplace⟩ := List.mem_iff_getElem?.mp hfirst
  rw [← h.first_eq place, Option.map_eq_some_iff] at hplace
  exact ⟨place, hplace⟩

/-- Groups in the making with one first row are one group. -/
lemma place_unique (h : Sorted rowHash same n b) {place place' : Nat} {g g' : Growing}
    (hg : b.groups[place]? = some g) (hg' : b.groups[place']? = some g')
    (hfirst : g.first = g'.first) : place = place' := by
  have hplace := h.first_eq place
  have hplace' := h.first_eq place'
  rw [hg, Option.map_some] at hplace
  rw [hg', Option.map_some] at hplace'
  obtain ⟨hlt, _⟩ := List.getElem?_eq_some_iff.mp hplace.symm
  have hnodup : (firsts same n).Nodup := firsts_ascending.imp Nat.ne_of_lt
  exact (List.getElem?_inj hlt hnodup).mp (by rw [← hplace, ← hplace', hfirst])

/-- There are as many groups in the making as first rows. -/
lemma size_eq (h : Sorted rowHash same n b) : b.groups.size = (firsts same n).length := by
  have hfirsts : b.groups.toList.map Growing.first = firsts same n := by
    apply List.ext_getElem?
    intro place
    rw [List.getElem?_map, Array.getElem?_toList, h.first_eq place]
  rw [← hfirsts, List.length_map, Array.length_toList]

/-- A group that is found begins with a row equal to the one that it is for. -/
lemma found {row place : Nat} {places : List Nat} (hfind : b.find? same row places = some place) :
    ∃ g, b.groups[place]? = some g ∧ same g.first row = true := by
  have hsame := List.find?_some hfind
  cases hg : b.groups[place]? with
  | none => simp [hg] at hsame
  | some g => exact ⟨g, rfl, by simpa [hg] using hsame⟩

/-- If no group is found among those of the row's hash there is none among all groups. -/
lemma not_found (h : Sorted rowHash same n b)
    (hhash : ∀ a < n, same a n = true → rowHash a = rowHash n)
    (hfind : b.find? same n (b.places.getD (rowHash n) []) = none) :
    ∀ first ∈ firsts same n, same first n = false := by
  intro first hfirst
  obtain ⟨place, g, hg, rfl⟩ := h.exists_group hfirst
  by_contra hne
  have hsame : same g.first n = true := by simpa using hne
  have hplace : place ∈ b.places.getD (rowHash n) [] :=
    (h.mem_places _ _).mpr ⟨g, hg, hhash _ (mem_firsts.mp hfirst).1 hsame⟩
  have hnot := List.find?_eq_none.mp hfind place hplace
  simp [hg, hsame] at hnot

section Equivalence

variable (heq : Equivalence fun a b => same a b = true)
include heq

/-- A row goes to the end of the group that is found for it. -/
lemma push (h : Sorted rowHash same n b) {place : Nat} {g : Growing}
    (hg : b.groups[place]? = some g) (hsame : same g.first n = true) :
    Sorted rowHash same (n + 1) { b with groups := b.groups.modify place (·.push n) } where
  first_eq place' := by
    rw [firsts_succ_of_mem heq (h.first_mem hg) hsame, ← h.first_eq place', Array.getElem?_modify]
    split
    · simp [Function.comp_def]
    · rfl
  rows_eq place' g' hg' := by
    rw [Array.getElem?_modify] at hg'
    split at hg'
    · next heq' =>
      subst heq'
      rw [hg, Option.map_some, Option.some.injEq] at hg'
      subst hg'
      rw [Growing.rows_push, Growing.first_push, classOf_succ, h.rows_eq _ _ hg, if_pos hsame]
    · next hne =>
      have hother : same g'.first n = false := by
        by_contra hcontra
        have hsame' : same g'.first n = true := by simpa using hcontra
        -- Two groups with this row would have one first row, and groups are told apart by it.
        have hfirst : g.first = g'.first :=
          first_unique heq (h.first_mem hg) (h.first_mem hg') (heq.trans hsame (heq.symm hsame'))
        exact hne (h.place_unique hg hg' hfirst)
      rw [classOf_succ, h.rows_eq _ _ hg', hother]
      simp
  mem_places hash place' := by
    rw [h.mem_places hash place', Array.getElem?_modify]
    split
    · simp
    · rfl

/-- A row whose group is not found begins a new group. -/
lemma insert (h : Sorted rowHash same n b)
    (hnone : ∀ first ∈ firsts same n, same first n = false) :
    Sorted rowHash same (n + 1)
      ⟨b.places.insert (rowHash n) (b.places.getD (rowHash n) [] ++ [b.groups.size]),
        b.groups.push ⟨n, #[]⟩⟩ where
  first_eq place := by
    rw [firsts_succ_of_forall heq hnone, Array.getElem?_push]
    by_cases hplace : place = b.groups.size
    · rw [if_pos hplace, hplace, h.size_eq, List.getElem?_concat_length, Option.map_some]
    · rw [if_neg hplace, h.first_eq place, List.getElem?_append]
      split
      · rfl
      · next hle =>
        rw [h.size_eq] at hplace
        rw [List.getElem?_eq_none (by omega), List.getElem?_eq_none (by simp; omega)]
  rows_eq place g hg := by
    rw [Array.getElem?_push] at hg
    split at hg
    · cases hg
      exact (classOf_succ_self heq hnone).symm
    · rw [classOf_succ, h.rows_eq _ _ hg, hnone _ (h.first_mem hg)]
      simp
  mem_places hash place := by
    have hold := h.mem_places hash place
    rw [Std.HashMap.getD_insert, Array.getElem?_push]
    by_cases hplace : place = b.groups.size
    -- The place of the new group was not in use before, neither under this hash nor under another one.
    · have hnew : place ∉ b.places.getD hash [] := by
        rw [hold, hplace]
        simp
      by_cases hhash : rowHash n = hash
      · subst hhash
        simp [hplace]
      · simp [hplace, hhash] at hnew ⊢
        exact hnew
    · by_cases hhash : rowHash n = hash
      · subst hhash
        simp [hplace, hold]
      · simp [hplace, hhash, hold]

/-- Putting one more row into its group. -/
lemma add (h : Sorted rowHash same n b) (hhash : ∀ a < n, same a n = true → rowHash a = rowHash n) :
    Sorted rowHash same (n + 1) (b.add rowHash same n) := by
  rw [Builder.add]
  split
  · next place hfind =>
    obtain ⟨g, hg, hsame⟩ := found hfind
    exact h.push heq hg hsame
  · next hfind => exact h.insert heq (h.not_found hhash hfind)

/-- Putting all rows into their groups, one after the other. -/
lemma foldl (hhash : ∀ a < n, ∀ b < n, same a b = true → rowHash a = rowHash b) :
    Sorted rowHash same n ((List.range n).foldl (Builder.add rowHash same) .empty) := by
  induction n with
  | zero => exact empty
  | succ n ih =>
    rw [List.range_succ, List.foldl_append]
    have hrows := ih fun a ha b hb => hhash a (Nat.lt_succ_of_lt ha) b (Nat.lt_succ_of_lt hb)
    exact hrows.add heq fun a ha => hhash a (Nat.lt_succ_of_lt ha) n (Nat.lt_succ_self n)

end Equivalence

/-- The groups in the making are the classes of the rows. -/
lemma groups_eq (h : Sorted rowHash same n b) :
    b.groups.toList.map Growing.rows = classes same n := by
  apply List.ext_getElem?
  intro place
  rw [classes, List.getElem?_map, List.getElem?_map, Array.getElem?_toList, ← h.first_eq place]
  cases hg : b.groups[place]? with
  | none => rfl
  | some g => simp [h.rows_eq place g hg]

end Builder.Sorted

/-- Sorting rows into groups gives the classes of an equivalence, whatever the hash is. -/
lemma groupRows_eq_classes (heq : Equivalence fun a b => same a b = true)
    (hhash : ∀ a < n, ∀ b < n, same a b = true → rowHash a = rowHash b) :
    groupRows rowHash same n = classes same n :=
  (Builder.Sorted.foldl heq hhash).groups_eq

end TimeTable.GroupIndex
