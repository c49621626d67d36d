import Mathlib.Data.List.Nodup
import Mathlib.Tactic.ByContra
import Mathlib.Tactic.Lemma
import TimeTable.Group.Index

/-!
# Classes of rows

The groups of rows by an equality of rows, without any search: one group for each row that no earlier
row is equal to, made of all rows that are equal to it. If the equality is an equivalence these groups
are its classes, in the order of their first rows and each row in exactly one of them.
-/

namespace TimeTable.GroupIndex

variable {same : Nat → Nat → Bool} {n : Nat}

/-- Whether no earlier row is equal to a row. -/
def isFirst (same : Nat → Nat → Bool) (row : Nat) : Bool :=
  (List.range row).all fun earlier => !same earlier row

/-- The rows that no earlier row is equal to. -/
def firsts (same : Nat → Nat → Bool) (n : Nat) : List Nat := (List.range n).filter (isFirst same)

def classOf (same : Nat → Nat → Bool) (n row : Nat) : List Nat := (List.range n).filter (same row)

def classes (same : Nat → Nat → Bool) (n : Nat) : List (List Nat) :=
  (firsts same n).map (classOf same n)

/-- That the groups of an index are the classes of its rows under a relation: every row is in one group
once, rows of a group are related and only they are, and groups and rows are in order. -/
structure Classifies (index : GroupIndex) (related : Nat → Nat → Prop) : Prop where
  nonempty : ∀ group ∈ index.groups, group ≠ []
  ascending : ∀ group ∈ index.groups, group.Pairwise (· < ·)
  firstRows_ascending : index.firstRows.Pairwise (· < ·)
  covers : index.groups.flatten.Perm (List.range index.rowCount)
  together_iff : ∀ a < index.rowCount, ∀ b < index.rowCount,
    (∃ group ∈ index.groups, a ∈ group ∧ b ∈ group) ↔ related a b

lemma isFirst_iff {row : Nat} :
    isFirst same row = true ↔ ∀ earlier < row, same earlier row = false := by
  simp [isFirst]

lemma mem_firsts {row : Nat} :
    row ∈ firsts same n ↔ row < n ∧ ∀ earlier < row, same earlier row = false := by
  simp only [firsts, List.mem_filter, List.mem_range, isFirst_iff]

lemma mem_classOf {row a : Nat} : a ∈ classOf same n row ↔ a < n ∧ same row a = true := by
  simp only [classOf, List.mem_filter, List.mem_range]

lemma firsts_ascending : (firsts same n).Pairwise (· < ·) :=
  List.pairwise_lt_range.filter _

lemma classOf_ascending {row : Nat} : (classOf same n row).Pairwise (· < ·) :=
  List.pairwise_lt_range.filter _

lemma classOf_succ (row : Nat) :
    classOf same (n + 1) row = classOf same n row ++ if same row n then [n] else [] := by
  rw [classOf, List.range_succ, List.filter_append, ← classOf]
  by_cases h : same row n
  · simp [h]
  · simp [h]

lemma firsts_succ :
    firsts same (n + 1) = firsts same n ++ if isFirst same n then [n] else [] := by
  rw [firsts, List.range_succ, List.filter_append, ← firsts]
  by_cases h : isFirst same n
  · simp [h]
  · simp [h]

section Equivalence

variable (heq : Equivalence fun a b => same a b = true)
include heq

/-- Every row is equal to a first row: go back to an equal earlier row as long as there is one. -/
lemma exists_first {row : Nat} (hrow : row < n) : ∃ first ∈ firsts same n, same first row = true := by
  induction row using Nat.strongRecOn with
  | ind row ih =>
    by_cases hfirst : ∀ earlier < row, same earlier row = false
    · exact ⟨row, mem_firsts.mpr ⟨hrow, hfirst⟩, heq.refl row⟩
    · obtain ⟨earlier, hlt, hsame⟩ : ∃ earlier < row, same earlier row = true := by
        simpa using hfirst
      obtain ⟨first, hmem, h⟩ := ih earlier hlt (Nat.lt_trans hlt hrow)
      exact ⟨first, hmem, heq.trans h hsame⟩

/-- A row is a first row if no first row before it is equal to it. -/
lemma isFirst_iff_forall_firsts :
    isFirst same n = true ↔ ∀ first ∈ firsts same n, same first n = false := by
  rw [isFirst_iff]
  constructor
  · intro h first hfirst
    exact h first (mem_firsts.mp hfirst).1
  · intro h earlier hearlier
    obtain ⟨first, hfirst, hsame⟩ := exists_first heq hearlier
    by_contra hne
    have hsame' : same first n = true := heq.trans hsame (by simpa using hne)
    rw [h first hfirst] at hsame'
    cases hsame'

lemma firsts_succ_of_mem {first : Nat} (hfirst : first ∈ firsts same n)
    (hsame : same first n = true) : firsts same (n + 1) = firsts same n := by
  have hnot : isFirst same n = false := by
    by_contra hne
    have hdiffers := (isFirst_iff_forall_firsts heq).mp (by simpa using hne) first hfirst
    rw [hsame] at hdiffers
    cases hdiffers
  rw [firsts_succ, hnot]
  simp

lemma firsts_succ_of_forall (hnone : ∀ first ∈ firsts same n, same first n = false) :
    firsts same (n + 1) = firsts same n ++ [n] := by
  rw [firsts_succ, if_pos ((isFirst_iff_forall_firsts heq).mpr hnone)]

lemma classOf_succ_self (hnone : ∀ first ∈ firsts same n, same first n = false) :
    classOf same (n + 1) n = [n] := by
  have hfirst := isFirst_iff.mp ((isFirst_iff_forall_firsts heq).mpr hnone)
  have hnil : classOf same n n = [] := by
    rw [classOf, List.filter_eq_nil_iff]
    intro row hrow hsame
    have hsame' : same row n = true := heq.symm hsame
    rw [hfirst row (List.mem_range.mp hrow)] at hsame'
    cases hsame'
  have hrefl : same n n = true := heq.refl n
  rw [classOf_succ, hnil, if_pos hrefl, List.nil_append]

/-- Equal first rows are one row. -/
lemma first_unique {a b : Nat} (ha : a ∈ firsts same n) (hb : b ∈ firsts same n)
    (hsame : same a b = true) : a = b := by
  rcases Nat.lt_trichotomy a b with hlt | rfl | hlt
  · rw [(mem_firsts.mp hb).2 a hlt] at hsame
    cases hsame
  · rfl
  · have hsame' : same b a = true := heq.symm hsame
    rw [(mem_firsts.mp ha).2 b hlt] at hsame'
    cases hsame'

/-- The class of a first row begins with that row. -/
lemma head?_classOf {first : Nat} (hfirst : first ∈ firsts same n) :
    (classOf same n first).head? = some first := by
  obtain ⟨hlt, hnone⟩ := mem_firsts.mp hfirst
  rw [classOf, List.head?_filter, List.find?_range_eq_some]
  refine ⟨heq.refl first, List.mem_range.mpr hlt, ?_⟩
  intro earlier hearlier
  have hne : same first earlier ≠ true := by
    intro h
    have h' : same earlier first = true := heq.symm h
    rw [hnone earlier hearlier] at h'
    cases h'
  simpa using hne

lemma firstRows_classes : (⟨classes same n, n⟩ : GroupIndex).firstRows = firsts same n := by
  rw [firstRows, classes, List.filterMap_map]
  have h : ∀ first ∈ firsts same n, (List.head? ∘ classOf same n) first = some first :=
    fun first hfirst => head?_classOf heq hfirst
  rw [List.filterMap_congr h, List.filterMap_some]

/-- No row is in two places of the classes. -/
lemma nodup_flatten_classes : (classes same n).flatten.Nodup := by
  rw [List.nodup_flatten]
  constructor
  · intro group hgroup
    obtain ⟨first, _, rfl⟩ := List.mem_map.mp hgroup
    exact classOf_ascending.imp Nat.ne_of_lt
  -- A row of two classes would be like the first rows of both, which then are one.
  · rw [classes, List.pairwise_map]
    refine firsts_ascending.imp_of_mem ?_
    intro a b ha hb hlt row hrowa hrowb
    have hab : same a b = true :=
      heq.trans (mem_classOf.mp hrowa).2 (heq.symm (mem_classOf.mp hrowb).2)
    exact Nat.ne_of_lt hlt (first_unique heq ha hb hab)

lemma mem_flatten_classes {row : Nat} : row ∈ (classes same n).flatten ↔ row < n := by
  rw [classes, ← List.flatMap_def, List.mem_flatMap]
  constructor
  · rintro ⟨first, _, hrow⟩
    exact (mem_classOf.mp hrow).1
  · intro hrow
    obtain ⟨first, hfirst, hsame⟩ := exists_first heq hrow
    exact ⟨first, hfirst, mem_classOf.mpr ⟨hrow, hsame⟩⟩

/-- The classes of an equivalence classify the rows by it. -/
lemma classifies_classes :
    (⟨classes same n, n⟩ : GroupIndex).Classifies fun a b => same a b = true where
  nonempty group hgroup := by
    obtain ⟨first, hfirst, rfl⟩ := List.mem_map.mp hgroup
    intro hnil
    have hhead := head?_classOf heq hfirst
    rw [hnil] at hhead
    cases hhead
  ascending group hgroup := by
    obtain ⟨first, _, rfl⟩ := List.mem_map.mp hgroup
    exact classOf_ascending
  firstRows_ascending := by
    rw [firstRows_classes heq]
    exact firsts_ascending
  covers := by
    -- Both lists are without repetition, so it is enough to compare what is in them.
    refine (List.perm_ext_iff_of_nodup (nodup_flatten_classes heq) List.nodup_range).mpr ?_
    intro row
    rw [mem_flatten_classes heq, List.mem_range]
  together_iff a ha b hb := by
    constructor
    · rintro ⟨group, hgroup, hmema, hmemb⟩
      obtain ⟨first, _, rfl⟩ := List.mem_map.mp hgroup
      exact heq.trans (heq.symm (mem_classOf.mp hmema).2) (mem_classOf.mp hmemb).2
    · intro hsame
      obtain ⟨first, hfirst, hrow⟩ := exists_first heq ha
      exact ⟨classOf same n first, List.mem_map.mpr ⟨first, hfirst, rfl⟩,
        mem_classOf.mpr ⟨ha, hrow⟩, mem_classOf.mpr ⟨hb, heq.trans hrow hsame⟩⟩

end Equivalence
end TimeTable.GroupIndex
