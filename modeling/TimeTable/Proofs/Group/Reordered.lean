import TimeTable.Proofs.Group.Kept

namespace TimeTable.GroupIndex

variable {same same' : Nat → Nat → Bool} {rows rows' group : List Nat} {a b n : Nat}

section Equivalence

variable (heq : Equivalence fun a b => same a b = true)
include heq

/-- The same rows are equal to equal rows. -/
lemma same_eq_same (h : same a b = true) : same a = same b := by
  funext row
  rw [Bool.eq_iff_iff]
  exact ⟨heq.trans (heq.symm h), heq.trans h⟩

lemma mem_filter_same (ha : a ∈ rows) : a ∈ rows.filter (same a) :=
  List.mem_filter.mpr ⟨ha, heq.refl a⟩

/-- The classes among some rows are the classes of these rows. -/
lemma mem_classesAmong :
    group ∈ classesAmong same rows ↔ ∃ row ∈ rows, group = rows.filter (same row) := by
  induction rows using classesAmong.induct same with
  | case1 => simp
  | case2 row rows ih =>
    have hself : same row row = true := heq.refl row
    have hclass : row :: rows.filter (same row) = (row :: rows).filter (same row) :=
      (List.filter_cons_of_pos hself).symm
    -- A class is that of its first row or, among the rows unlike this one, a class of the rest.
    rw [classesAmong_cons, List.mem_cons, ih, hclass]
    constructor
    · rintro (rfl | ⟨a, ha, rfl⟩)
      · exact ⟨row, List.mem_cons_self, rfl⟩
      · obtain ⟨hmem, hdiffers⟩ := mem_unlike.mp ha
        exact ⟨a, List.mem_cons_of_mem _ hmem, (filter_same_cons heq hdiffers).symm⟩
    · rintro ⟨a, ha, rfl⟩
      cases hsame : same row a with
      | true =>
        rw [same_eq_same heq hsame]
        exact .inl rfl
      | false =>
        refine .inr ⟨a, mem_unlike.mpr ⟨?_, hsame⟩, filter_same_cons heq hsame⟩
        rcases List.mem_cons.mp ha with rfl | hmem
        · rw [hself] at hsame
          cases hsame
        · exact hmem

lemma nodup_classesAmong : (classesAmong same rows).Nodup := by
  induction rows using classesAmong.induct same with
  | case1 => simp
  | case2 row rows ih =>
    rw [classesAmong_cons, List.nodup_cons]
    refine ⟨?_, ih⟩
    intro hmem
    -- The first row is not among the rows that differ from it.
    obtain ⟨a, -, hclass⟩ := (mem_classesAmong heq).mp hmem
    have hrow : row ∈ (unlike same row rows).filter (same a) := hclass ▸ List.mem_cons_self
    have hself : same row row = true := heq.refl row
    rw [(mem_unlike.mp (List.mem_of_mem_filter hrow)).2] at hself
    cases hself

/-- A class is that of its first row. -/
lemma eq_filter_headD (h : group ∈ classesAmong same rows) :
    group.headD 0 ∈ rows ∧ group = rows.filter (same (group.headD 0)) := by
  obtain ⟨a, ha, hgroup⟩ := (mem_classesAmong heq).mp h
  have hne : group ≠ [] := hgroup ▸ List.ne_nil_of_mem (mem_filter_same heq ha)
  have hhead := headD_mem hne
  rw [hgroup, List.mem_filter, ← hgroup] at hhead
  refine ⟨hhead.1, ?_⟩
  rw [← same_eq_same heq hhead.2]
  exact hgroup

/-- The classes among rows in another order, made of the classes that there are. -/
lemma map_classesAmong_perm (h : rows'.Perm rows) :
    ((classesAmong same rows).map fun group => rows'.filter (same (group.headD 0))).Perm
      (classesAmong same rows') := by
  refine (List.perm_ext_iff_of_nodup ?_ (nodup_classesAmong heq)).mpr fun group => ?_
  -- Groups are told apart by their first rows, also after the rows were put in another order.
  · refine List.Nodup.map_on ?_ (nodup_classesAmong heq)
    intro x hx y hy hxy
    obtain ⟨hmem, hx⟩ := eq_filter_headD heq hx
    obtain ⟨-, hy⟩ := eq_filter_headD heq hy
    have hhead := mem_filter_same heq (h.symm.subset hmem)
    rw [hxy] at hhead
    rw [hx, hy, same_eq_same heq (List.mem_filter.mp hhead).2]
  · rw [List.mem_map, mem_classesAmong heq]
    constructor
    · rintro ⟨x, hx, rfl⟩
      exact ⟨x.headD 0, h.symm.subset (eq_filter_headD heq hx).1, rfl⟩
    · rintro ⟨row, hrow, rfl⟩
      have hclass := (mem_classesAmong heq).mpr ⟨row, h.subset hrow, rfl⟩
      refine ⟨_, hclass, ?_⟩
      obtain ⟨hmem, hx⟩ := eq_filter_headD heq hclass
      have hhead := mem_filter_same heq (h.subset hrow)
      rw [hx] at hhead
      rw [same_eq_same heq (List.mem_filter.mp hhead).2]

/-- Rows in another order have the same classes, up to order. -/
lemma exists_places_classesAmong (h : rows'.Perm rows) :
    ∃ places : List Nat, places.Perm (List.range (classesAmong same rows).length) ∧
      List.Forall₂ (fun group place => place < (classesAmong same rows).length ∧
        group.Perm ((classesAmong same rows).getD place [])) (classesAmong same rows') places := by
  obtain ⟨places, hplaces, hclasses⟩ := exists_places_of_perm (map_classesAmong_perm heq h).symm []
  rw [List.length_map] at hplaces
  refine ⟨places, hplaces, ?_⟩
  rw [hclasses, List.forall₂_map_left_iff, List.forall₂_same]
  intro place hplace
  have hlt : place < (classesAmong same rows).length := List.mem_range.mp (hplaces.subset hplace)
  refine ⟨hlt, ?_⟩
  rw [List.getD_eq_getElem _ _ (by rwa [List.length_map]), List.getElem_map,
    List.getD_eq_getElem _ _ hlt]
  conv_rhs => rw [(eq_filter_headD heq (List.getElem_mem hlt)).2]
  exact h.filter _

end Equivalence

/-- That the groups of an index are those of another one in the order of some places, with new numbers
for their rows and the rows of each group in any order. -/
structure Reorders (places : List Nat) (number : Nat → Nat) (index index' : GroupIndex) : Prop where
  places_perm : places.Perm (List.range index.groups.length)
  groups_perm : List.Forall₂ (fun rows place => place < index.groups.length ∧
    (rows.map number).Perm (index.groups.getD place [])) index'.groups places

lemma exists_reorders_classes (hrows : rows.Perm (List.range n))
    (heq : Equivalence fun a b => same a b = true) (heq' : Equivalence fun a b => same' a b = true)
    (hsame : ∀ a < rows.length, ∀ b < rows.length,
      same' a b = same (rows.getD a 0) (rows.getD b 0)) :
    ∃ places, Reorders places (rows.getD · 0) ⟨classes same n, n⟩
      ⟨classes same' rows.length, rows.length⟩ := by
  have hnumber := map_classesAmong fun a ha b hb =>
    hsame a (List.mem_range.mp ha) b (List.mem_range.mp hb)
  rw [← classes_eq_classesAmong heq', map_getD_range] at hnumber
  obtain ⟨places, hplaces, hgroups⟩ := exists_places_classesAmong heq hrows
  rw [← hnumber, List.forall₂_map_left_iff, ← classes_eq_classesAmong heq] at hgroups
  rw [← classes_eq_classesAmong heq] at hplaces
  exact ⟨places, hplaces, hgroups⟩

namespace Reorders

variable {index index' : GroupIndex} {places : List Nat} {number : Nat → Nat}
  {related : Nat → Nat → Prop} (h : Reorders places number index index')
include h

lemma length_groups : index'.groups.length = index.groups.length := by
  rw [h.groups_perm.length_eq, h.places_perm.length_eq, List.length_range]

/-- The first row of a group is related to the first row of the group that it was before. -/
lemma forall₂_firstRows (hindex : index.Classifies related)
    (hgroups : ∀ group ∈ index'.groups, group ≠ []) :
    List.Forall₂ (fun row place => related (number row) (index.firstRows.getD place 0))
      index'.firstRows places := by
  rw [firstRows_eq_map hgroups, List.forall₂_map_left_iff]
  refine h.groups_perm.imp fun rows place hplace => ?_
  obtain ⟨hlt, hperm⟩ := hplace
  have hgroup : index.groups.getD place [] ∈ index.groups := getD_mem hlt []
  have hne := hindex.nonempty _ hgroup
  have hrows : rows ≠ [] := by
    rintro rfl
    exact hne hperm.nil_eq.symm
  have hfirst : number (rows.headD 0) ∈ index.groups.getD place [] :=
    hperm.subset (List.mem_map_of_mem (headD_mem hrows))
  rw [getD_firstRows hindex.nonempty]
  exact (hindex.together_iff _ (hindex.lt_of_mem hgroup hfirst) _
    (hindex.lt_of_mem hgroup (headD_mem hne))).mp ⟨_, hgroup, hfirst, headD_mem hne⟩

end Reorders
end TimeTable.GroupIndex
